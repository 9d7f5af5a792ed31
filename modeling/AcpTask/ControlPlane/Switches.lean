import AcpTask.ControlPlane.Reverified
import AcpTask.ControlPlane.Stop
import AcpTask.Library.Run

namespace AcpTask.ControlPlane

open Library

inductive TenantCall where
  | setCapabilityFamilyEnabled (tenantId family : String) (enabled : Bool)
  | setControlPlaneSenderEnabled (tenantId senderId : String) (enabled : Bool)
  | setEmergencyStop (tenantId : String) (active : Bool)
      (actingPrincipalId : Option String)

inductive SwitchResult where
  | state (state : ControlPlaneState)
  | scopes (scopes : List String)

structure SwitchKey where
  tenantId : String
  name : String
  deriving DecidableEq

structure LocalSwitch where
  key : SwitchKey
  enabled : Bool

structure LocalSwitches where
  families : Table LocalSwitch LocalSwitch.key
  senders : Table LocalSwitch LocalSwitch.key
  stops : Table TenantStop TenantStop.tenantId

def stopped (stops : Table TenantStop TenantStop.tenantId)
    (tenantId : String) : Bool :=
  (stops.find? tenantId).any TenantStop.stopped

def setStopped (stops : Table TenantStop TenantStop.tenantId)
    (tenantId : String) (active : Bool) :
    Table TenantStop TenantStop.tenantId :=
  stops.upsert ⟨tenantId, active⟩ (fun row => { row with stopped := active })
    fun _ => rfl

namespace LocalSwitches

variable (store : LocalSwitches)

def switchesOf (switches : Table LocalSwitch LocalSwitch.key)
    (tenantId : String) : List (String × Bool) :=
  (switches.rows.filter fun row => row.key.tenantId == tenantId).map
    fun row => (row.key.name, row.enabled)

def readState (tenantId : String) : ControlPlaneState where
  emergencyStop := stopped store.stops tenantId
  families := switchesOf store.families tenantId
  senders := switchesOf store.senders tenantId

def controlPlaneState (tenantId : String) :
    Except AccountError ControlPlaneState := do
  require (tenantId != "") (.valueError "tenant_id is required")
  pure (store.readState tenantId)

def setSwitch (switches : Table LocalSwitch LocalSwitch.key)
    (key : SwitchKey) (enabled : Bool) : Table LocalSwitch LocalSwitch.key :=
  switches.upsert ⟨key, enabled⟩ (fun row => { row with enabled }) fun _ => rfl

def setCapabilityFamilyEnabled (tenantId family : String) (enabled : Bool) :
    Except AccountError (SwitchResult × LocalSwitches) := do
  require (tenantId != "") (.valueError "tenant_id is required")
  require (family != "") (.valueError "family is required")
  let after := { store with
    families := setSwitch store.families ⟨tenantId, family⟩ enabled }
  let state ← after.controlPlaneState tenantId
  pure (.state state, after)

def setControlPlaneSenderEnabled (tenantId senderId : String)
    (enabled : Bool) :
    Except AccountError (SwitchResult × LocalSwitches) := do
  require (tenantId != "") (.valueError "tenant_id is required")
  require (senderId != "") (.valueError "sender_id is required")
  let after := { store with
    senders := setSwitch store.senders ⟨tenantId, senderId⟩ enabled }
  let state ← after.controlPlaneState tenantId
  pure (.state state, after)

def setEmergencyStop (tenantId : String) (active : Bool) :
    Except AccountError (SwitchResult × LocalSwitches) := do
  require (tenantId != "") (.valueError "tenant_id is required")
  let after := { store with stops := setStopped store.stops tenantId active }
  let state ← after.controlPlaneState tenantId
  pure (.state state, after)

def call : TenantCall → Except AccountError (SwitchResult × LocalSwitches)
  | .setCapabilityFamilyEnabled tenantId family enabled =>
      store.setCapabilityFamilyEnabled tenantId family enabled
  | .setControlPlaneSenderEnabled tenantId senderId enabled =>
      store.setControlPlaneSenderEnabled tenantId senderId enabled
  | .setEmergencyStop tenantId active _ =>
      store.setEmergencyStop tenantId active

end LocalSwitches

def localStep (store : LocalSwitches) (call : TenantCall) :
    Except AccountError SwitchResult × LocalSwitches :=
  transaction store fun store => store.call call

/-- What is asked of the connections, besides: whoever else writes
`integrations.connections` may leave any rows there. -/
inductive AccountCall where
  | tenant (call : TenantCall)
  | recordVerifiedAccount (key : ConnectionKey)
      (provider providerAccountId : String) (state : VerifiedAccountState)
  | setSenderEnabled (key : ConnectionKey) (senderId : String)
      (enabled : Bool)
  | setFamilyEnabled (key : ConnectionKey) (family : String) (enabled : Bool)
  | installations (connections : Table Connection Connection.key)

namespace ProviderStore

variable (store : ProviderStore)

/-- `bool_or(enabled) … group by` a name. -/
def anyEnabled (rows : List (String × Bool)) : List (String × Bool) :=
  (rows.map Prod.fst).dedup.map fun name =>
    (name, rows.any fun row => row.1 == name && row.2)

/-- `_control_plane_state`. -/
def readState (tenantId : String) : ControlPlaneState where
  emergencyStop := stopped store.stops tenantId
  families := anyEnabled ((store.families.rows.filter fun row =>
    row.key.connection.tenantId == tenantId).map
      fun row => (row.key.family.1, row.enabled))
  senders := anyEnabled ((store.senders.rows.filter fun row =>
    row.key.connection.tenantId == tenantId).map
      fun row => (row.key.senderId, row.enabled))

def controlPlaneState (tenantId : String) :
    Except AccountError ControlPlaneState := do
  require (tenantId != "") (.valueError "tenant_id is required")
  pure (store.readState tenantId)

/-- `order by connection_id`. -/
def ordered (keys : List ConnectionKey) : List ConnectionKey :=
  keys.insertionSort fun first second =>
    ¬ second.connectionId < first.connectionId

def familyConnections (tenantId family : String) : List ConnectionKey :=
  ordered ((store.families.rows.filter fun row =>
    row.key.connection.tenantId == tenantId &&
      row.key.family.1 == family).map fun row => row.key.connection)

def senderConnections (tenantId senderId : String) : List ConnectionKey :=
  ordered ((store.senders.rows.filter fun row =>
    row.key.connection.tenantId == tenantId &&
      row.key.senderId == senderId).map fun row => row.key.connection)

def setFamilies (family : String) (enabled : Bool) :
    List ConnectionKey → ProviderStore → Except AccountError Unit × ProviderStore
  | [], store => (.ok (), store)
  | key :: keys, store =>
      match store.setFamilyEnabled key family enabled with
      | .error error => (.error error, store)
      | .ok (_, next) => setFamilies family enabled keys next

def setCapabilityFamilyEnabled (tenantId family : String) (enabled : Bool) :
    Except AccountError SwitchResult × ProviderStore :=
  let (outcome, after) := setFamilies family enabled
    (store.familyConnections tenantId family) store
  (do
    outcome
    let state ← after.controlPlaneState tenantId
    pure (.state state), after)

def setControlPlaneSenderEnabled (tenantId senderId : String)
    (enabled : Bool) : Except AccountError SwitchResult × ProviderStore :=
  match (store.senderConnections tenantId senderId).head? with
  | none => (.state <$> store.controlPlaneState tenantId, store)
  | some key =>
      match store.setSenderEnabled key senderId enabled with
      | .error error => (.error error, store)
      | .ok (_, after) => (.state <$> after.controlPlaneState tenantId, after)

def setEmergencyStop (tenantId : String) (active : Bool)
    (actingPrincipalId : Option String) :
    Except AccountError (SwitchResult × ProviderStore) := do
  require (!active || actingPrincipalId.any fun name => name != "")
    (.valueError "an emergency stop must name who ordered it")
  let after := { store with stops := setStopped store.stops tenantId active }
  pure (.state (after.readState tenantId), after)

end ProviderStore

def scopesOf (outcome : Except AccountError (List String × ProviderStore)) :
    Except AccountError (SwitchResult × ProviderStore) :=
  outcome.map fun result => (.scopes result.1, result.2)

def accountStep (store : ProviderStore) :
    AccountCall → Except AccountError SwitchResult × ProviderStore
  | .tenant (.setCapabilityFamilyEnabled tenantId family enabled) =>
      store.setCapabilityFamilyEnabled tenantId family enabled
  | .tenant (.setControlPlaneSenderEnabled tenantId senderId enabled) =>
      store.setControlPlaneSenderEnabled tenantId senderId enabled
  | .tenant (.setEmergencyStop tenantId active actingPrincipalId) =>
      transaction store fun store =>
        store.setEmergencyStop tenantId active actingPrincipalId
  | .recordVerifiedAccount key provider providerAccountId state =>
      transaction store fun store => scopesOf
        (store.recordVerifiedAccount key provider providerAccountId state)
  | .setSenderEnabled key senderId enabled =>
      transaction store fun store =>
        scopesOf (store.setSenderEnabled key senderId enabled)
  | .setFamilyEnabled key family enabled =>
      transaction store fun store =>
        scopesOf (store.setFamilyEnabled key family enabled)
  | .installations connections => (.ok (.scopes []), { store with connections })

end AcpTask.ControlPlane
