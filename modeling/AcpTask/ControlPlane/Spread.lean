import AcpTask.ControlPlane.Disabled

namespace AcpTask.ControlPlane

open Library

abbrev AccountEvent := AccountCall × Except AccountError SwitchResult

namespace AccountEvent

def Disables (tenantId : String) (switch : Switch) (event : AccountEvent) :
    Prop :=
  event.1 = .tenant (switch.set tenantId false) ∧ event.2.isOk = true

def Enables (tenantId : String) (switch : Switch) (event : AccountEvent) :
    Prop :=
  event.1 = .tenant (switch.set tenantId true) ∨
    (∃ key, key.tenantId = tenantId ∧ event.1 = switch.enableOn key) ∧
      event.2.isOk = true

def Forbids (log : List AccountEvent) (tenantId : String)
    (switch : Switch) : Prop :=
  InForce (Disables tenantId switch) (Enables tenantId switch) log

end AccountEvent

abbrev AccountLog :=
  Logged ProviderStore AccountCall (Except AccountError SwitchResult)

namespace AccountLog

def Obeyed (logged : AccountLog) : Prop :=
  ∀ tenantId switch, AccountEvent.Forbids logged.log tenantId switch →
    Off (logged.state.readState tenantId) switch

/-- Who disables a sender finds it enabled on its first connection at most; and
a verification brings no row of what is disabled. -/
def Fair (logged : AccountLog) : AccountCall → Prop
  | .tenant (.setControlPlaneSenderEnabled tenantId senderId false) =>
      (logged.state.setControlPlaneSenderEnabled tenantId senderId
        false).1.isOk = true →
      ∀ row ∈ logged.state.senders, row.key.connection.tenantId = tenantId →
        row.key.senderId = senderId → row.enabled = true →
          (logged.state.senderConnections tenantId senderId).head? =
            some row.key.connection
  | .recordVerifiedAccount key provider providerAccountId state =>
      (logged.state.recordVerifiedAccount key provider providerAccountId
        state).isOk = true →
      (∀ family ∈ state.familyNames, AccountEvent.Forbids logged.log
        key.tenantId (.family family.1) →
          logged.state.families.find? ⟨key, family⟩ ≠ none) ∧
      ∀ senderId first,
        (ProviderStore.entriesOf state.senders senderId).head? = some first →
        first.enabled = true → AccountEvent.Forbids logged.log key.tenantId
          (.sender senderId) → logged.state.senders.find? ⟨key, senderId⟩ ≠ none
  | _ => True

end AccountLog

theorem lookup_map_self (names : List String) (read : String → Bool)
    (name : String) :
    (names.map fun name => (name, read name)).lookup name =
      if name ∈ names then some (read name) else none := by
  induction names with
  | nil => rfl
  | cons head _ induction =>
      rw [List.map_cons, List.lookup_cons, induction]
      by_cases same : name = head
      · subst same
        simp
      · have apart : (name == head) = false := beq_eq_false_iff_ne.mpr same
        rw [apart]
        simp [same]

theorem switchedOn_anyEnabled {rows : List (String × Bool)} {name : String} :
    switchedOn (ProviderStore.anyEnabled rows) name = true ↔
      (name, true) ∈ rows := by
  have reported : (ProviderStore.anyEnabled rows).reverse.lookup name =
      if name ∈ (rows.map Prod.fst).dedup.reverse then
        some (rows.any fun row => row.1 == name && row.2)
      else none := by
    rw [ProviderStore.anyEnabled, ← List.map_reverse]
    exact lookup_map_self _
      (fun name => rows.any fun row => row.1 == name && row.2) name
  rw [switchedOn, beq_iff_eq, reported]
  simp only [List.mem_reverse, List.mem_dedup, List.mem_map]
  constructor
  · intro on
    split at on
    · rw [Option.some.injEq, List.any_eq_true] at on
      obtain ⟨_, member, fits⟩ := on
      rw [Bool.and_eq_true, beq_iff_eq] at fits
      obtain ⟨named, enabled⟩ := fits
      rw [← named, ← enabled]
      exact member
    · cases on
  · intro member
    rw [if_pos ⟨_, member, rfl⟩, Option.some.injEq, List.any_eq_true]
    exact ⟨_, member, by simp⟩

namespace ProviderStore

variable {store : ProviderStore}

def IsEnabled (store : ProviderStore) (tenantId : String) : Switch → Prop
  | .family name => ∃ row ∈ store.families,
      row.key.connection.tenantId = tenantId ∧ row.key.family.1 = name ∧
        row.enabled = true
  | .sender senderId => ∃ row ∈ store.senders,
      row.key.connection.tenantId = tenantId ∧ row.key.senderId = senderId ∧
        row.enabled = true

variable {tenantId : String} {switch : Switch}

theorem isOn_iff :
    switch.isOn (store.readState tenantId) = true ↔
      store.IsEnabled tenantId switch := by
  cases switch with
  | family | sender =>
      refine switchedOn_anyEnabled.trans ?_
      simp only [List.mem_map, List.mem_filter, beq_iff_eq, Prod.mk.injEq]
      constructor
      · rintro ⟨row, ⟨member, tenant⟩, named, enabled⟩
        exact ⟨row, member, tenant, named, enabled⟩
      · rintro ⟨row, member, tenant, named, enabled⟩
        exact ⟨row, ⟨member, tenant⟩, named, enabled⟩

theorem off_readState_iff :
    Off (store.readState tenantId) switch ↔
      ¬ store.IsEnabled tenantId switch := by
  rw [off_iff, ← isOn_iff, Bool.not_eq_true]

variable {key : ConnectionKey} {scopes : List String} {next : ProviderStore}

theorem rederive_frame (rederived : store.rederive key = .ok (scopes, next)) :
    next.families = store.families ∧ next.senders = store.senders := by
  unfold rederive at rederived
  obtain ⟨read, _, rederived⟩ := bind_eq_ok.mp rederived
  cases read with
  | none => cases rederived
  | some =>
      obtain ⟨_, _, rederived⟩ := bind_eq_ok.mp rederived
      obtain ⟨_, _, rederived⟩ := bind_eq_ok.mp rederived
      cases rederived
      exact ⟨rfl, rfl⟩

variable {senderId : String} {enabled : Bool}

theorem setSenderEnabled_ok
    (done : store.setSenderEnabled key senderId enabled = .ok (scopes, next)) :
    next.families = store.families ∧
      next.senders = store.senders.updateWhere
        (fun row => decide (row.key = ⟨key, senderId⟩))
        (fun row => { row with enabled }) fun _ => rfl := by
  unfold setSenderEnabled at done
  obtain ⟨_, _, done⟩ := bind_eq_ok.mp done
  exact rederive_frame done

variable {family : String}

theorem setFamilyEnabled_ok
    (done : store.setFamilyEnabled key family enabled = .ok (scopes, next)) :
    next.senders = store.senders ∧
      next.families = store.families.updateWhere
        (fun row => decide (row.key.connection = key) &&
          row.key.family.1 == family)
        (fun row => { row with enabled }) fun _ => rfl := by
  unfold setFamilyEnabled at done
  obtain ⟨_, _, done⟩ := bind_eq_ok.mp done
  exact (rederive_frame done).symm

theorem isEnabled_of_setSender
    (done : store.setSenderEnabled key senderId enabled = .ok (scopes, next))
    (on : next.IsEnabled tenantId switch) :
    store.IsEnabled tenantId switch ∨
      (enabled = true ∧ key.tenantId = tenantId ∧
        switch = .sender senderId) := by
  obtain ⟨families, senders⟩ := setSenderEnabled_ok done
  cases switch with
  | family =>
      obtain ⟨row, member, fits⟩ := on
      rw [families] at member
      exact .inl ⟨row, member, fits⟩
  | sender other =>
      obtain ⟨row, member, tenant, named, set⟩ := on
      rw [senders] at member
      obtain ⟨old, stored, rfl⟩ := (Table.mem_updateWhere ..).mp member
      split at tenant
      · rename_i selected
        have same : old.key = ⟨key, senderId⟩ := of_decide_eq_true selected
        rw [if_pos selected] at named set
        right
        refine ⟨set, ?_, ?_⟩
        · rw [← tenant]
          exact (congrArg (fun key => key.connection.tenantId) same).symm
        · rw [← named]
          exact congrArg (fun key => Switch.sender key.senderId) same
      · rename_i other
        rw [if_neg other] at named set
        exact .inl ⟨old, stored, tenant, named, set⟩

theorem isEnabled_setSender_false_iff
    (done : store.setSenderEnabled key senderId false = .ok (scopes, next)) :
    next.IsEnabled tenantId (.sender senderId) ↔
      ∃ row ∈ store.senders, row.key.connection.tenantId = tenantId ∧
        row.key.senderId = senderId ∧ row.enabled = true ∧
          row.key.connection ≠ key := by
  obtain ⟨_, senders⟩ := setSenderEnabled_ok done
  constructor
  · rintro ⟨row, member, tenant, named, set⟩
    rw [senders] at member
    obtain ⟨old, stored, rfl⟩ := (Table.mem_updateWhere ..).mp member
    split at set
    · cases set
    · rename_i other
      rw [if_neg other] at tenant named
      refine ⟨old, stored, tenant, named, set, fun same => other ?_⟩
      rw [decide_eq_true_eq, ← same, ← named]
  · rintro ⟨row, stored, tenant, named, set, apart⟩
    have unselected : ¬ decide (row.key = ⟨key, senderId⟩) = true := by
      rw [decide_eq_true_eq]
      exact fun same => apart (congrArg SenderKey.connection same)
    refine ⟨row, ?_, tenant, named, set⟩
    rw [senders]
    exact (Table.mem_updateWhere ..).mpr ⟨row, stored, if_neg unselected⟩

theorem setFamilyEnabled_row
    (done : store.setFamilyEnabled key family enabled = .ok (scopes, next))
    {row : AccountFamily} (member : row ∈ next.families)
    (on : row.enabled = true) :
    (enabled = true ∧ row.key.connection = key ∧
        row.key.family.1 = family) ∨
      (row ∈ store.families ∧
        ¬ (row.key.connection = key ∧ row.key.family.1 = family)) := by
  rw [(setFamilyEnabled_ok done).2] at member
  obtain ⟨old, stored, rfl⟩ := (Table.mem_updateWhere ..).mp member
  split at on
  · rename_i selected
    rw [if_pos selected]
    rw [Bool.and_eq_true, decide_eq_true_eq, beq_iff_eq] at selected
    exact .inl ⟨on, selected⟩
  · rename_i other
    rw [if_neg other]
    rw [Bool.and_eq_true, decide_eq_true_eq, beq_iff_eq] at other
    exact .inr ⟨stored, other⟩

theorem isEnabled_of_setFamily
    (done : store.setFamilyEnabled key family enabled = .ok (scopes, next))
    (on : next.IsEnabled tenantId switch) :
    store.IsEnabled tenantId switch ∨
      (enabled = true ∧ key.tenantId = tenantId ∧ switch = .family family) := by
  cases switch with
  | sender =>
      obtain ⟨row, member, fits⟩ := on
      rw [(setFamilyEnabled_ok done).1] at member
      exact .inl ⟨row, member, fits⟩
  | family =>
      obtain ⟨row, member, tenant, named, set⟩ := on
      rcases setFamilyEnabled_row done member set with
        ⟨turned, here, same⟩ | ⟨stored, _⟩
      · rw [← tenant, ← named, here, same]
        exact .inr ⟨turned, rfl, rfl⟩
      · exact .inl ⟨row, stored, tenant, named, set⟩

theorem isEnabled_of_setFamilies {keys : List ConnectionKey}
    (on : (setFamilies family enabled keys store).2.IsEnabled tenantId switch) :
    store.IsEnabled tenantId switch ∨
      (enabled = true ∧ (∃ key ∈ keys, key.tenantId = tenantId) ∧
        switch = .family family) := by
  induction keys generalizing store with
  | nil => exact .inl on
  | cons key keys induction =>
      unfold setFamilies at on
      split at on
      · exact .inl on
      · rename_i scopes next done
        rcases induction on with before | ⟨turned, ⟨other, member, tenant⟩,
          same⟩
        · rcases isEnabled_of_setFamily done before with earlier |
            ⟨turned, tenant, same⟩
          · exact .inl earlier
          · exact .inr ⟨turned, ⟨key, List.mem_cons_self, tenant⟩, same⟩
        · exact .inr ⟨turned, ⟨other, .tail _ member, tenant⟩, same⟩

theorem setFamilies_false {keys : List ConnectionKey}
    (finished : (setFamilies family false keys store).1.isOk = true)
    {row : AccountFamily}
    (member : row ∈ (setFamilies family false keys store).2.families)
    (on : row.enabled = true) :
    row ∈ store.families ∧
      ¬ (row.key.connection ∈ keys ∧ row.key.family.1 = family) := by
  induction keys generalizing store with
  | nil => exact ⟨member, fun both => by cases both.1⟩
  | cons key keys induction =>
      unfold setFamilies at finished member
      split at finished
      · cases finished
      · rename_i scopes next done
        rw [done] at member
        obtain ⟨before, apart⟩ := induction finished member
        rcases setFamilyEnabled_row done before on with ⟨turned, _⟩ |
          ⟨stored, other⟩
        · cases turned
        · refine ⟨stored, fun ⟨inside, named⟩ => ?_⟩
          rcases List.mem_cons.mp inside with here | later
          · exact other ⟨here, named⟩
          · exact apart ⟨later, named⟩

theorem mem_familyConnections :
    key ∈ store.familyConnections tenantId family ↔
      ∃ row ∈ store.families, (row.key.connection.tenantId = tenantId ∧
        row.key.family.1 = family) ∧ row.key.connection = key := by
  simp only [familyConnections, ordered, List.mem_insertionSort, List.mem_map,
    List.mem_filter, Bool.and_eq_true, beq_iff_eq]
  exact exists_congr fun _ => and_assoc

theorem mem_senderConnections :
    key ∈ store.senderConnections tenantId senderId ↔
      ∃ row ∈ store.senders, (row.key.connection.tenantId = tenantId ∧
        row.key.senderId = senderId) ∧ row.key.connection = key := by
  simp only [senderConnections, ordered, List.mem_insertionSort, List.mem_map,
    List.mem_filter, Bool.and_eq_true, beq_iff_eq]
  exact exists_congr fun _ => and_assoc

theorem isEnabled_of_setCapabilityFamily {tenant : String}
    (on : (store.setCapabilityFamilyEnabled tenantId family
      enabled).2.IsEnabled tenant switch) :
    store.IsEnabled tenant switch ∨
      (enabled = true ∧ tenantId = tenant ∧ switch = .family family) := by
  rcases isEnabled_of_setFamilies on with before |
    ⟨turned, ⟨key, member, same⟩, named⟩
  · exact .inl before
  · obtain ⟨_, _, ⟨here, _⟩, equal⟩ := mem_familyConnections.mp member
    rw [← equal, here] at same
    exact .inr ⟨turned, same, named⟩

theorem setCapabilityFamily_false
    (finished : (store.setCapabilityFamilyEnabled tenantId family
      false).1.isOk = true) :
    ¬ (store.setCapabilityFamilyEnabled tenantId family false).2.IsEnabled
      tenantId (.family family) := by
  rintro ⟨row, member, tenant, named, on⟩
  have all : (setFamilies family false
      (store.familyConnections tenantId family) store).1.isOk = true := by
    unfold setCapabilityFamilyEnabled at finished
    dsimp only at finished
    cases outcome : (setFamilies family false
        (store.familyConnections tenantId family) store).1 with
    | ok => rfl
    | error =>
        rw [outcome] at finished
        cases finished
  obtain ⟨stored, apart⟩ := setFamilies_false all member on
  exact apart ⟨mem_familyConnections.mpr
    ⟨row, stored, ⟨tenant, named⟩, rfl⟩, named⟩

theorem isEnabled_of_setControlPlaneSender {tenant : String}
    (on : (store.setControlPlaneSenderEnabled tenantId senderId
      enabled).2.IsEnabled tenant switch) :
    store.IsEnabled tenant switch ∨
      (enabled = true ∧ tenantId = tenant ∧ switch = .sender senderId) := by
  unfold setControlPlaneSenderEnabled at on
  split at on
  · exact .inl on
  · rename_i key first
    split at on
    · exact .inl on
    · rename_i scopes after done
      rcases isEnabled_of_setSender done on with before | ⟨turned, same, named⟩
      · exact .inl before
      · obtain ⟨row, _, ⟨here, _⟩, equal⟩ :=
          mem_senderConnections.mp (List.mem_of_head? first)
        rw [← equal, here] at same
        exact .inr ⟨turned, same, named⟩

theorem setControlPlaneSender_false_iff
    (finished : (store.setControlPlaneSenderEnabled tenantId senderId
      false).1.isOk = true) :
    ¬ (store.setControlPlaneSenderEnabled tenantId senderId false).2.IsEnabled
        tenantId (.sender senderId) ↔
      ∀ row ∈ store.senders, row.key.connection.tenantId = tenantId →
        row.key.senderId = senderId → row.enabled = true →
          (store.senderConnections tenantId senderId).head? =
            some row.key.connection := by
  cases first : (store.senderConnections tenantId senderId).head? with
  | none =>
      have absent : ∀ row ∈ store.senders,
          row.key.connection.tenantId = tenantId →
            row.key.senderId = senderId → False := by
        intro row member tenant named
        have listed := mem_senderConnections.mpr
          ⟨row, member, ⟨tenant, named⟩, rfl⟩
        rw [List.head?_eq_none_iff.mp first] at listed
        cases listed
      refine iff_of_true ?_ fun row member tenant named =>
        (absent row member tenant named).elim
      unfold setControlPlaneSenderEnabled
      rw [first]
      rintro ⟨row, member, tenant, named, _⟩
      exact absent row member tenant named
  | some key =>
      unfold setControlPlaneSenderEnabled at finished ⊢
      rw [first] at finished ⊢
      dsimp only at finished ⊢
      cases outcome : store.setSenderEnabled key senderId false with
      | error =>
          rw [outcome] at finished
          cases finished
      | ok =>
          dsimp only
          rw [isEnabled_setSender_false_iff outcome]
          constructor
          · intro off row member tenant named on
            by_contra other
            refine off ⟨row, member, tenant, named, on, fun same => ?_⟩
            exact other (congrArg some same.symm)
          · rintro alone ⟨row, member, tenant, named, on, apart⟩
            exact apart (Option.some.inj
              (alone row member tenant named on)).symm

def Brings (store : ProviderStore) (key : ConnectionKey)
    (state : VerifiedAccountState) : Switch → Prop
  | .family name => ∃ family ∈ state.familyNames, family.1 = name ∧
      store.families.find? ⟨key, family⟩ = none
  | .sender senderId => ∃ first,
      (entriesOf state.senders senderId).head? = some first ∧
        first.enabled = true ∧ store.senders.find? ⟨key, senderId⟩ = none

theorem Merged.elsewhere {provider : String} {state : VerifiedAccountState}
    {merged : ProviderStore} (rows : Merged store key provider state merged) :
    (∀ {row}, row.key.connection ≠ key →
      (row ∈ merged.families ↔ row ∈ store.families)) ∧
    ∀ {row}, row.key.connection ≠ key →
      (row ∈ merged.senders ↔ row ∈ store.senders) := by
  constructor <;> intro row apart <;>
    rw [Table.mem_iff_find?, Table.mem_iff_find?]
  · rw [rows.families, if_neg fun both => apart both.1]
  · rw [rows.senders, if_neg apart]

theorem isEnabled_recordVerifiedAccount_iff
    {provider providerAccountId : String} {state : VerifiedAccountState}
    (recorded : store.recordVerifiedAccount key provider providerAccountId
      state = .ok (scopes, next)) :
    next.IsEnabled tenantId switch ↔
      store.IsEnabled tenantId switch ∨
        (key.tenantId = tenantId ∧ store.Brings key state switch) := by
  obtain ⟨_, rows, rederived⟩ := recordVerifiedAccount_ok recorded
  obtain ⟨families, senders⟩ := rederive_frame rederived
  cases switch with
  | family =>
      unfold IsEnabled
      rw [families]
      constructor
      · rintro ⟨row, member, tenant, named, on⟩
        by_cases here : row.key.connection = key
        · have opens := rows.opens_iff.mp ⟨row, member, ⟨here, on⟩, rfl⟩
          generalize opened : row.key.family = family at opens named
          cases opens with
          | @kept old stored same enabled =>
              rw [here] at tenant
              exact .inl ⟨old, stored, by rw [same]; exact tenant, named,
                enabled⟩
          | fresh brought absent =>
              rw [here] at tenant
              exact .inr ⟨tenant, _, brought, named, absent⟩
        · exact .inl ⟨row, (rows.elsewhere.1 here).mp member, tenant, named, on⟩
      · rintro (⟨row, stored, tenant, named, on⟩ |
          ⟨tenant, family, brought, named, absent⟩)
        · by_cases here : row.key.connection = key
          · obtain ⟨other, member, ⟨same, enabled⟩, equal⟩ :=
              rows.opens_iff.mpr (.kept stored here on)
            refine ⟨other, member, ?_, ?_, enabled⟩
            · rw [same, ← here]
              exact tenant
            · rw [equal]
              exact named
          · exact ⟨row, (rows.elsewhere.1 here).mpr stored, tenant, named, on⟩
        · obtain ⟨other, member, ⟨same, enabled⟩, equal⟩ :=
            rows.opens_iff.mpr (.fresh brought absent)
          refine ⟨other, member, ?_, ?_, enabled⟩
          · rw [same]
            exact tenant
          · rw [equal]
            exact named
  | sender =>
      unfold IsEnabled
      rw [senders]
      constructor
      · rintro ⟨row, member, tenant, named, on⟩
        by_cases here : row.key.connection = key
        · obtain ⟨_, sends, _⟩ := rows.sends_of_row member here on
          rw [here] at tenant
          rw [named] at sends
          generalize row.family = family at sends
          cases sends with
          | kept stored same enabled _ | renewed stored same enabled _ =>
              exact .inl ⟨_, stored, by rw [same]; exact tenant, rfl, enabled⟩
          | fresh absent brought enabled _ =>
              exact .inr ⟨tenant, _, brought, enabled, absent⟩
        · exact .inl ⟨row, (rows.elsewhere.2 here).mp member, tenant, named, on⟩
      · rintro (⟨row, stored, tenant, named, on⟩ |
          ⟨tenant, first, brought, enabled, absent⟩)
        · by_cases here : row.key.connection = key
          · obtain ⟨_, _, sends⟩ := sends_of_stored stored here on
            obtain ⟨other, member, same, enabled, _⟩ := rows.row_of_sends sends
            refine ⟨other, member, ?_, ?_, enabled⟩
            · rw [same, ← here]
              exact tenant
            · rw [same]
              exact named
          · exact ⟨row, (rows.elsewhere.2 here).mpr stored, tenant, named, on⟩
        · obtain ⟨_, entry⟩ := exists_getLast? brought
          obtain ⟨other, member, same, on, _⟩ :=
            rows.row_of_sends (.fresh absent brought enabled entry)
          refine ⟨other, member, ?_, ?_, on⟩
          · rw [same]
            exact tenant
          · rw [same]

end ProviderStore

end AcpTask.ControlPlane
