import AcpTask.ControlPlane.Provider

namespace AcpTask.ControlPlane

open Library

/-! What a connection is left with once its account is verified again. -/

namespace ProviderStore

variable (store : ProviderStore) (key : ConnectionKey)

def effectiveScopes : List String :=
  (store.connections.find? key).elim [] Connection.effectiveScopes

inductive Opens (state : VerifiedAccountState) : FamilyName → Prop where
  | kept {row : AccountFamily} (member : row ∈ store.families)
      (here : row.key.connection = key) (enabled : row.enabled = true) :
      Opens state row.key.family
  | fresh {family : FamilyName} (brought : family ∈ state.familyNames)
      (absent : store.families.find? ⟨key, family⟩ = none) :
      Opens state family

def entriesOf (senders : List VerifiedSender) (senderId : String) :
    List VerifiedSender :=
  senders.filter fun sender => sender.senderId == senderId

/-- The sender is enabled on the connection, or the account brings it so; the
last entry of the account says where it may reach. -/
inductive Sends (state : VerifiedAccountState) :
    String → String → List String → Prop where
  | kept {row : ProviderSender} (member : row ∈ store.senders)
      (here : row.key.connection = key) (enabled : row.enabled = true)
      (unnamed : entriesOf state.senders row.key.senderId = []) :
      Sends state row.key.senderId row.family row.countries
  | renewed {row : ProviderSender} {last : VerifiedSender}
      (member : row ∈ store.senders)
      (here : row.key.connection = key) (enabled : row.enabled = true)
      (entry : (entriesOf state.senders row.key.senderId).getLast? =
        some last) :
      Sends state row.key.senderId last.family last.countries
  | fresh {senderId : String} {first last : VerifiedSender}
      (absent : store.senders.find? ⟨key, senderId⟩ = none)
      (brought : (entriesOf state.senders senderId).head? = some first)
      (enabled : first.enabled = true)
      (entry : (entriesOf state.senders senderId).getLast? = some last) :
      Sends state senderId last.family last.countries

/-- The connection is left with a value in a dimension, should the account be
verified. -/
inductive Retains (state : VerifiedAccountState) : String → String → Prop where
  | family {family : FamilyName} (opens : store.Opens key state family) :
      Retains state family.1 "send"
  | sender {senderId : String} {family : FamilyName}
      {countries : List String}
      (sends : store.Sends key state senderId family.1 countries)
      (opens : store.Opens key state family) :
      Retains state senderDimension senderId
  | geo {senderId country : String} {family : FamilyName}
      {countries : List String}
      (sends : store.Sends key state senderId family.1 countries)
      (opens : store.Opens key state family)
      (reached : country ∈ countries) :
      Retains state geoDimension country
  | template {row : ProviderTemplate} (member : row ∈ store.templates)
      (here : row.key.connection = key) (approved : row.approved = true) :
      Retains state templateDimension row.key.templateId

def accountProvider (provider : String) : String :=
  (store.accounts.find? key).elim provider ProviderAccount.provider

def Fresh (provider : String) (state : VerifiedAccountState) : Prop :=
  state.status = .verified → ∀ dimension value,
    store.Retains key state dimension value →
      store.accountProvider key provider = state.provider ∧
        Grants state dimension value

variable {store key}

theorem find?_recordFamilies (families : List FamilyName) (cell : FamilyKey) :
    (store.recordFamilies key families).families.find? cell =
      if cell.connection = key ∧ cell.family ∈ families then
        some ((store.families.find? cell).elim ⟨cell, true, "live"⟩
          fun row => { row with providerState := "live" })
      else store.families.find? cell := by
  induction families generalizing store with
  | nil => simp [recordFamilies]
  | cons family families induction =>
      have step := @induction (store.recordFamily key family)
      rw [show store.recordFamilies key (family :: families) =
        (store.recordFamily key family).recordFamilies key families from rfl,
        step]
      have one : (store.recordFamily key family).families.find? cell =
          if (⟨key, family⟩ : FamilyKey) = cell then
            some ((store.families.find? cell).elim
              ⟨⟨key, family⟩, true, "live"⟩
              fun row => { row with providerState := "live" })
          else store.families.find? cell :=
        Table.find?_upsert _ _ _ _ _
      rw [one]
      by_cases same : (⟨key, family⟩ : FamilyKey) = cell
      · subst same
        simp only [if_true, List.mem_cons, true_or, and_true]
        split
        · cases store.families.find? ⟨key, family⟩ with
          | none | some => rfl
        · rfl
      · rw [if_neg same]
        have apart : cell.connection = key → cell.family ≠ family := by
          rintro rfl rfl
          exact same rfl
        by_cases inside : cell.connection = key ∧ cell.family ∈ families
        · rw [if_pos inside, if_pos ⟨inside.1, .tail _ inside.2⟩]
        · rw [if_neg inside, if_neg]
          rintro ⟨here, member⟩
          rcases List.mem_cons.mp member with equal | later
          · exact apart here equal
          · exact inside ⟨here, later⟩

theorem exists_getLast? {entries : List VerifiedSender}
    {first : VerifiedSender} (head : entries.head? = some first) :
    ∃ last, entries.getLast? = some last := by
  refine Option.ne_none_iff_exists'.mp ?_
  rw [Ne, List.getLast?_eq_none_iff, ← List.head?_eq_none_iff, head]
  exact Option.some_ne_none first

theorem exists_head? {entries : List VerifiedSender} {last : VerifiedSender}
    (tail : entries.getLast? = some last) :
    ∃ first, entries.head? = some first := by
  refine Option.ne_none_iff_exists'.mp ?_
  rw [Ne, List.head?_eq_none_iff, ← List.getLast?_eq_none_iff, tail]
  exact Option.some_ne_none last

def sentRow (cell : SenderKey) (before : Option ProviderSender)
    (sender : VerifiedSender) : ProviderSender :=
  before.elim
    ⟨cell, sender.family, sortedSet sender.countries, sender.enabled⟩
    fun row => { row with
      family := sender.family
      countries := sortedSet sender.countries }

variable {next : ProviderStore}

theorem recordSender_ok {sender : VerifiedSender}
    (recorded : store.recordSender key sender = .ok next) :
    next = { store with senders := next.senders } ∧
      ∀ cell, next.senders.find? cell =
        if (⟨key, sender.senderId⟩ : SenderKey) = cell then
          some (sentRow cell (store.senders.find? cell) sender)
        else store.senders.find? cell := by
  unfold recordSender at recorded
  obtain ⟨_, _, recorded⟩ := bind_eq_ok.mp recorded
  cases recorded
  refine ⟨rfl, fun cell => (Table.find?_upsert _ _ _ _ _).trans ?_⟩
  by_cases same : (⟨key, sender.senderId⟩ : SenderKey) = cell
  · subst same
    rfl
  · rw [if_neg same]
    exact (if_neg same).symm

theorem recordSenders_ok {senders : List VerifiedSender}
    (recorded : senders.foldlM
      (fun store sender => store.recordSender key sender) store = .ok next) :
    next = { store with senders := next.senders } ∧
      ∀ cell, next.senders.find? cell =
        if cell.connection = key then
          (entriesOf senders cell.senderId).foldl
            (fun before sender => some (sentRow cell before sender))
            (store.senders.find? cell)
        else store.senders.find? cell := by
  induction senders generalizing store with
  | nil =>
      cases recorded
      exact ⟨rfl, fun cell => (ite_self _).symm⟩
  | cons sender _ induction =>
      rw [List.foldlM_cons] at recorded
      obtain ⟨_, first, rest⟩ := bind_eq_ok.mp recorded
      obtain ⟨same, here⟩ := recordSender_ok first
      obtain ⟨others, after⟩ := induction rest
      refine ⟨?_, fun cell => ?_⟩
      · rw [others, same]
      · rw [after cell, here cell]
        by_cases inside : cell.connection = key
        · rw [if_pos inside, if_pos inside, entriesOf, entriesOf,
            List.filter_cons]
          by_cases named : sender.senderId = cell.senderId
          · have own : (⟨key, sender.senderId⟩ : SenderKey) = cell := by
              rw [named, ← inside]
            rw [if_pos own, if_pos (beq_iff_eq.mpr named), List.foldl_cons]
          · have apart : (⟨key, sender.senderId⟩ : SenderKey) ≠ cell := by
              rintro rfl
              exact named rfl
            rw [if_neg apart, if_neg fun equal => named (beq_iff_eq.mp equal)]
        · have apart : (⟨key, sender.senderId⟩ : SenderKey) ≠ cell := by
            rintro rfl
            exact inside rfl
          rw [if_neg inside, if_neg inside, if_neg apart]

theorem foldl_sentRow {entries : List VerifiedSender} {cell : SenderKey}
    {before : Option ProviderSender} {first last : VerifiedSender}
    (head : entries.head? = some first)
    (tail : entries.getLast? = some last) :
    ∃ row, entries.foldl
        (fun before sender => some (sentRow cell before sender)) before =
          some row ∧
      row.enabled = before.elim first.enabled ProviderSender.enabled ∧
      row.family = last.family ∧
      row.countries = sortedSet last.countries := by
  induction entries generalizing before first with
  | nil => cases head
  | cons sender entries induction =>
      cases head
      rw [List.foldl_cons]
      cases entries with
      | nil =>
          cases tail
          cases before with
          | none | some => exact ⟨_, rfl, rfl, rfl, rfl⟩
      | cons second =>
          rw [List.getLast?_cons_cons] at tail
          obtain ⟨row, found, enabled, family, countries⟩ :=
            @induction (some (sentRow cell before sender)) second rfl tail
          refine ⟨row, found, enabled.trans ?_, family, countries⟩
          cases before with
          | none | some => rfl

structure Merged (store : ProviderStore) (key : ConnectionKey)
    (provider : String) (state : VerifiedAccountState)
    (merged : ProviderStore) : Prop where
  account : ∃ row, merged.accounts.find? key = some row ∧
    row.provider = store.accountProvider key provider ∧
    row.status = state.status
  connections : merged.connections = store.connections
  templates : merged.templates = store.templates
  families : ∀ cell, merged.families.find? cell =
    if cell.connection = key ∧ cell.family ∈ state.familyNames then
      some ((store.families.find? cell).elim ⟨cell, true, "live"⟩
        fun row => { row with providerState := "live" })
    else store.families.find? cell
  senders : ∀ cell, merged.senders.find? cell =
    if cell.connection = key then
      (entriesOf state.senders cell.senderId).foldl
        (fun before sender => some (sentRow cell before sender))
        (store.senders.find? cell)
    else store.senders.find? cell

theorem recordAccount_ok {provider providerAccountId : String}
    {status : AccountStatus}
    (recorded : store.recordAccount key provider providerAccountId status =
      .ok next) :
    next = { store with accounts := next.accounts } ∧
      ∃ row, next.accounts.find? key = some row ∧
        row.provider = store.accountProvider key provider ∧
        row.status = status := by
  unfold recordAccount at recorded
  obtain ⟨_, _, recorded⟩ := bind_eq_ok.mp recorded
  cases recorded
  refine ⟨rfl, _, (Table.find?_upsert _ _ _ _ _).trans (if_pos rfl), ?_⟩
  unfold accountProvider
  cases store.accounts.find? key with
  | none | some => exact ⟨rfl, rfl⟩

theorem recordFamilies_frame (families : List FamilyName) :
    store.recordFamilies key families = { store with
      families := (store.recordFamilies key families).families } := by
  induction families generalizing store with
  | nil => rfl
  | cons family _ induction => exact @induction (store.recordFamily key family)

theorem recordVerifiedAccount_ok {provider providerAccountId : String}
    {state : VerifiedAccountState} {scopes : List String}
    (recorded : store.recordVerifiedAccount key provider providerAccountId
      state = .ok (scopes, next)) :
    ∃ merged, Merged store key provider state merged ∧
      merged.rederive key = .ok (scopes, next) := by
  unfold recordVerifiedAccount at recorded
  obtain ⟨opened, first, recorded⟩ := bind_eq_ok.mp recorded
  obtain ⟨merged, second, derived⟩ := bind_eq_ok.mp recorded
  obtain ⟨account, row, found, provider, status⟩ := recordAccount_ok first
  obtain ⟨frame, senders⟩ := recordSenders_ok second
  have opens := @recordFamilies_frame opened key state.familyNames
  have accounts : merged.accounts = opened.accounts := by
    rw [frame, opens]
  have families : opened.families = store.families := by rw [account]
  have sentFamilies : merged.families =
      (opened.recordFamilies key state.familyNames).families := by
    rw [frame]
  have before : (opened.recordFamilies key state.familyNames).senders =
      store.senders := by
    rw [opens, account]
  refine ⟨merged, ?_, derived⟩
  constructor
  · rw [accounts]
    exact ⟨row, found, provider, status⟩
  · rw [frame, opens, account]
  · rw [frame, opens, account]
  · intro cell
    rw [sentFamilies, find?_recordFamilies, families]
  · intro cell
    rw [senders cell, before]

theorem rederive_ok {scopes : List String}
    (rederived : store.rederive key = .ok (scopes, next)) :
    ∃ account state, store.accounts.find? key = some account ∧
      state.provider = account.provider ∧ state.status = account.status ∧
      state.families = store.storedFamilies key ∧
      state.senders = store.storedSenders key ∧
      state.templates = store.storedTemplates key ∧
      deriveSyntheticScopes state = .ok scopes ∧
      next.effectiveScopes key =
        (store.connections.find? key).elim [] fun _ => sortedSet scopes := by
  unfold rederive at rederived
  obtain ⟨_, stored, rederived⟩ := bind_eq_ok.mp rederived
  unfold accountState at stored
  cases found : store.accounts.find? key with
  | none =>
      rw [found] at stored
      cases stored
      cases rederived
  | some account =>
      rw [found] at stored
      dsimp only at stored
      split at stored
      · cases stored
        obtain ⟨_, here, rederived⟩ := bind_eq_ok.mp rederived
        obtain ⟨_, _, rederived⟩ := bind_eq_ok.mp rederived
        cases rederived
        refine ⟨account, _, rfl, rfl, rfl, rfl, rfl, rfl, here, ?_⟩
        unfold effectiveScopes
        dsimp only
        rw [Table.find?_updateWhere_key]
        rw [if_pos rfl]
        cases store.connections.find? key with
        | none | some => rfl
      · cases stored

variable {provider : String} {state : VerifiedAccountState}
  {merged : ProviderStore}

section Rows

variable (rows : Merged store key provider state merged)

include rows

theorem Merged.opens_iff {family : FamilyName} :
    (∃ row ∈ merged.families, (row.key.connection = key ∧
      row.enabled = true) ∧ row.key.family = family) ↔
      store.Opens key state family := by
  constructor
  · rintro ⟨row, member, ⟨here, enabled⟩, rfl⟩
    have found := (rows.families row.key).symm.trans
      (Table.mem_iff_find?.mp member)
    split at found
    · rename_i brought
      cases before : store.families.find? row.key with
      | none =>
          refine .fresh brought.2 ?_
          rw [← here]
          exact before
      | some =>
          obtain ⟨stored, same⟩ := Table.find?_eq_some_iff.mp before
          rw [before, Option.some.injEq] at found
          rw [← same]
          refine .kept stored (by rw [same]; exact here) ?_
          rw [← found] at enabled
          exact enabled
    · exact .kept (Table.find?_eq_some_iff.mp found).1 here enabled
  · intro opens
    cases opens with
    | @kept row member here enabled =>
        have found := rows.families row.key
        rw [Table.mem_iff_find?.mp member] at found
        split at found
        all_goals
          obtain ⟨stored, _⟩ := Table.find?_eq_some_iff.mp found
          exact ⟨_, stored, ⟨here, enabled⟩, rfl⟩
    | fresh brought absent =>
        have found := rows.families ⟨key, family⟩
        rw [if_pos ⟨rfl, brought⟩, absent] at found
        obtain ⟨stored, _⟩ := Table.find?_eq_some_iff.mp found
        exact ⟨_, stored, ⟨rfl, rfl⟩, rfl⟩

theorem Merged.sends_of_row {row : ProviderSender}
    (member : row ∈ merged.senders) (here : row.key.connection = key)
    (enabled : row.enabled = true) :
    ∃ countries, store.Sends key state row.key.senderId row.family countries ∧
      ∀ country, country ∈ row.countries ↔ country ∈ countries := by
  have found := (rows.senders row.key).symm.trans
    (Table.mem_iff_find?.mp member)
  rw [if_pos here] at found
  cases first : (entriesOf state.senders row.key.senderId).head? with
  | none =>
      have empty := List.head?_eq_none_iff.mp first
      rw [empty] at found
      exact ⟨_, .kept (Table.find?_eq_some_iff.mp found).1 here enabled empty,
        fun _ => Iff.rfl⟩
  | some =>
      obtain ⟨last, entry⟩ := exists_getLast? first
      obtain ⟨other, folded, flag, family, countries⟩ :=
        @foldl_sentRow _ row.key (store.senders.find? row.key) _ _ first entry
      have same := Option.some.inj (folded.symm.trans found)
      subst same
      rw [family]
      refine ⟨last.countries, ?_, fun country => ?_⟩
      · cases before : store.senders.find? other.key with
        | none =>
            rw [before, enabled] at flag
            refine .fresh ?_ first flag.symm entry
            rw [← here]
            exact before
        | some =>
            obtain ⟨stored, same⟩ := Table.find?_eq_some_iff.mp before
            rw [before, enabled] at flag
            rw [← same]
            refine .renewed stored ?_ flag.symm ?_
            · rw [same]
              exact here
            · rw [same]
              exact entry
      · rw [countries, mem_sortedSet]

theorem Merged.row_of_entries {senderId : String} {first last : VerifiedSender}
    (head : (entriesOf state.senders senderId).head? = some first)
    (entry : (entriesOf state.senders senderId).getLast? = some last)
    (enabled : (store.senders.find? ⟨key, senderId⟩).elim first.enabled ProviderSender.enabled = true) :
    ∃ row ∈ merged.senders, row.key = ⟨key, senderId⟩ ∧
      row.enabled = true ∧ row.family = last.family ∧
      ∀ country, country ∈ row.countries ↔ country ∈ last.countries := by
  obtain ⟨row, folded, flag, family, countries⟩ :=
    @foldl_sentRow _ ⟨key, senderId⟩ (store.senders.find? ⟨key, senderId⟩) _
      _ head entry
  have found := rows.senders ⟨key, senderId⟩
  rw [if_pos rfl, folded] at found
  obtain ⟨member, same⟩ := Table.find?_eq_some_iff.mp found
  refine ⟨row, member, same, flag.trans enabled, family, fun country => ?_⟩
  rw [countries, mem_sortedSet]

theorem Merged.row_of_sends {senderId family : String} {countries : List String}
    (sends : store.Sends key state senderId family countries) :
    ∃ row ∈ merged.senders, row.key = ⟨key, senderId⟩ ∧
      row.enabled = true ∧ row.family = family ∧
      ∀ country, country ∈ row.countries ↔ country ∈ countries := by
  cases sends with
  | @kept row member here enabled unnamed =>
      have found := rows.senders row.key
      rw [if_pos here, unnamed, Table.mem_iff_find?.mp member] at found
      refine ⟨row, (Table.find?_eq_some_iff.mp found).1, ?_, enabled, rfl,
        fun _ => Iff.rfl⟩
      rw [← here]
  | @renewed row last member here enabled entry =>
      obtain ⟨_, head⟩ := exists_head? entry
      refine rows.row_of_entries head entry ?_
      rw [← here, Table.mem_iff_find?.mp member]
      exact enabled
  | fresh absent brought enabled entry =>
      refine rows.row_of_entries brought entry ?_
      rw [absent]
      exact enabled

end Rows

theorem sends_of_stored {row : ProviderSender} (member : row ∈ store.senders)
    (here : row.key.connection = key) (enabled : row.enabled = true) :
    ∃ family countries,
      store.Sends key state row.key.senderId family countries := by
  cases first : (entriesOf state.senders row.key.senderId).head? with
  | none =>
      exact ⟨_, _, .kept member here enabled (List.head?_eq_none_iff.mp first)⟩
  | some =>
      obtain ⟨_, entry⟩ := exists_getLast? first
      exact ⟨_, _, .renewed member here enabled entry⟩

theorem Merged.grants_iff (rows : Merged store key provider state merged)
    {after : VerifiedAccountState}
    (families : after.families = merged.storedFamilies key)
    (senders : after.senders = merged.storedSenders key)
    (templates : after.templates = merged.storedTemplates key)
    {dimension value : String} :
    Grants after dimension value ↔ store.Retains key state dimension value := by
  have live : ∀ family, after.isLive family = true ↔
      ∃ opened : FamilyName, store.Opens key state opened ∧
        opened.1 = family := by
    intro family
    rw [VerifiedAccountState.isLive_iff, families]
    constructor
    · rintro ⟨_, member, same⟩
      obtain ⟨row, stored, fits, rfl⟩ := merged.mem_storedFamilies.mp member
      rw [partition_send] at same
      exact ⟨row.key.family, rows.opens_iff.mp ⟨row, stored, fits, rfl⟩, same⟩
    · rintro ⟨_, opens, rfl⟩
      obtain ⟨row, stored, fits, rfl⟩ := rows.opens_iff.mpr opens
      refine ⟨_, merged.mem_storedFamilies.mpr ⟨row, stored, fits, rfl⟩, ?_⟩
      rw [partition_send]
  have sender : ∀ {entry}, entry ∈ after.senders ↔ ∃ row ∈ merged.senders,
      row.key.connection = key ∧
        entry = ⟨row.key.senderId, row.family, row.countries, row.enabled⟩ := by
    intro entry
    rw [senders]
    simp only [storedSenders, List.mem_map, List.mem_filter, beq_iff_eq,
      Table.mem_def, and_assoc, @eq_comm _ entry]
  have template : ∀ {template}, template ∈ after.templates ↔
      ∃ row ∈ store.templates, (row.key.connection = key ∧
        row.approved = true) ∧ template = row.key.templateId := by
    intro template
    rw [templates, storedTemplates, rows.templates]
    simp only [List.mem_map, List.mem_filter, Bool.and_eq_true, beq_iff_eq,
      Table.mem_def, and_assoc, @eq_comm _ template]
  constructor
  · intro grants
    cases grants with
    | family member =>
        rw [families] at member
        obtain ⟨row, stored, fits, rfl⟩ := merged.mem_storedFamilies.mp member
        rw [partition_send]
        exact .family (rows.opens_iff.mp ⟨row, stored, fits, rfl⟩)
    | sender member enabled admitted =>
        obtain ⟨row, stored, here, rfl⟩ := sender.mp member
        obtain ⟨family, opens, same⟩ := (live _).mp admitted
        obtain ⟨_, sends, _⟩ := rows.sends_of_row stored here enabled
        rw [← show family.1 = row.family from same] at sends
        exact .sender sends opens
    | geo member enabled admitted reached =>
        obtain ⟨row, stored, here, rfl⟩ := sender.mp member
        obtain ⟨family, opens, same⟩ := (live _).mp admitted
        obtain ⟨_, sends, reach⟩ := rows.sends_of_row stored here enabled
        rw [← show family.1 = row.family from same] at sends
        exact .geo sends opens ((reach _).mp reached)
    | template member =>
        obtain ⟨row, stored, fits, rfl⟩ := template.mp member
        exact .template stored fits.1 fits.2
  · intro retains
    cases retains with
    | family opens =>
        obtain ⟨row, stored, fits, rfl⟩ := rows.opens_iff.mpr opens
        have grants := @Grants.family after (row.key.family.1 ++ ":send") (by
          rw [families]
          exact merged.mem_storedFamilies.mpr ⟨row, stored, fits, rfl⟩)
        rw [partition_send] at grants
        exact grants
    | sender sends opens =>
        obtain ⟨row, stored, same, enabled, family, reach⟩ :=
          rows.row_of_sends sends
        have grants := @Grants.sender after _ (sender.mpr
          ⟨row, stored, congrArg SenderKey.connection same, rfl⟩) enabled
          ((live _).mpr ⟨_, opens, family.symm⟩)
        rw [same] at grants
        exact grants
    | geo sends opens reached =>
        obtain ⟨row, stored, same, enabled, family, reach⟩ :=
          rows.row_of_sends sends
        exact .geo (sender.mpr
          ⟨row, stored, congrArg SenderKey.connection same, rfl⟩) enabled
          ((live _).mpr ⟨_, opens, family.symm⟩) ((reach _).mpr reached)
    | template member here approved =>
        exact .template (template.mpr ⟨_, member, ⟨here, approved⟩, rfl⟩)

/-- What a verification leaves a connection with is among what the account
grants exactly when the account grants all that the connection keeps. -/
theorem reverified_contained_iff {store : ProviderStore}
    {key : ConnectionKey} {provider providerAccountId : String}
    {state : VerifiedAccountState} {scopes allowed : List String}
    {next : ProviderStore} {connection : Connection}
    (stored : store.connections.find? key = some connection)
    (recorded : store.recordVerifiedAccount key provider providerAccountId
      state = .ok (scopes, next))
    (derived : deriveSyntheticScopes state = .ok allowed) :
    next.effectiveScopes key ⊆ allowed ↔ store.Fresh key provider state := by
  obtain ⟨_, rows, rederived⟩ := recordVerifiedAccount_ok recorded
  obtain ⟨account, after, found, named, status, families, senders, templates,
    kept, effective⟩ := rederive_ok rederived
  obtain ⟨_, here, provided, verified⟩ := rows.account
  cases here.symm.trans found
  have scopesOf : next.effectiveScopes key ⊆ allowed ↔ scopes ⊆ allowed := by
    rw [effective, rows.connections, stored, Option.elim_some]
    exact ⟨fun subset scope member => subset (mem_sortedSet.mpr member),
      fun subset scope member => subset (mem_sortedSet.mp member)⟩
  rw [scopesOf]
  unfold Fresh
  rw [← verified, ← status]
  by_cases valid : after.status = .verified
  · rw [derived_subset_iff kept derived valid, forall_prop_of_true valid]
    refine forall_congr' fun dimension => forall_congr' fun value => ?_
    rw [rows.grants_iff families senders templates, named, provided]
    refine forall_congr' fun _ => and_iff_right ?_
    rw [← verified, ← status]
    exact valid
  · refine iff_of_true ?_ fun same => absurd same valid
    intro scope member
    exact absurd ((mem_derive_iff kept).mp member).1 valid

def twilioKey : ConnectionKey := ⟨"conn:twilio", "org:acme"⟩

def connected : ProviderStore where
  connections := ⟨[⟨twilioKey, []⟩], List.nodup_singleton _⟩
  accounts := .empty
  families := .empty
  senders := .empty
  templates := .empty
  derivedScopes := []
  stops := .empty

theorem sms_named : ∀ family ∈ ["sms:send"],
    (partition family).1 ≠ "" ∧ (partition family).2 ≠ "" := by
  decide +kernel

def messaging : VerifiedAccountState where
  provider := "twilio"
  accountId := "AC1"
  status := .verified
  families := ["sms:send"]
  senders := [⟨"+18095550100", "sms", ["DO", "ES"], true⟩]
  templates := []
  identified := by decide
  named := sms_named

def withdrawn : VerifiedAccountState where
  provider := "twilio"
  accountId := "AC1"
  status := .verified
  families := []
  senders := []
  templates := []
  identified := by decide
  named := by decide

def verifiedAfter (earlier state : VerifiedAccountState) :
    Except AccountError (List String × ProviderStore) := do
  let (_, store) ← connected.recordVerifiedAccount twilioKey "twilio" "AC1"
    earlier
  store.recordVerifiedAccount twilioKey "twilio" "AC1" state

theorem reverified_contained_iff_connected : ∃ scopes next,
    connected.recordVerifiedAccount twilioKey "twilio" "AC1" messaging =
        .ok (scopes, next) ∧
      (next.effectiveScopes twilioKey ⊆ ["twilio:sms:send",
          "twilio:sender:+18095550100", "twilio:geo:DO", "twilio:geo:ES"] ↔
        connected.Fresh twilioKey "twilio" messaging) := by
  cases outcome : connected.recordVerifiedAccount twilioKey "twilio" "AC1"
      messaging with
  | error =>
      have succeeded : (connected.recordVerifiedAccount twilioKey "twilio"
          "AC1" messaging).isOk = true := by decide +kernel
      rw [outcome] at succeeded
      cases succeeded
  | ok =>
      have found : connected.connections.find? twilioKey =
          some ⟨twilioKey, []⟩ := by decide +kernel
      exact ⟨_, _, rfl,
        reverified_contained_iff found outcome (by decide +kernel)⟩

/-- The connection keeps what the account has lost. -/
theorem withdrawn_sender_kept :
    ¬ ∀ (earlier state : VerifiedAccountState) (scopes allowed : List String)
      (next : ProviderStore),
      verifiedAfter earlier state = .ok (scopes, next) →
        deriveSyntheticScopes state = .ok allowed →
          next.effectiveScopes twilioKey ⊆ allowed := by
  intro contained
  have kept : ((verifiedAfter messaging withdrawn).toOption.map
      fun outcome => outcome.2.effectiveScopes twilioKey) =
        some ["twilio:geo:DO", "twilio:geo:ES", "twilio:sender:+18095550100",
          "twilio:sms:send"] := by decide +kernel
  cases outcome : verifiedAfter messaging withdrawn with
  | error =>
      rw [outcome] at kept
      cases kept
  | ok result =>
      rw [outcome] at kept
      have subset := contained messaging withdrawn result.1 [] result.2
        outcome (by decide)
      rw [show result.2.effectiveScopes twilioKey = _ from
        Option.some.inj kept] at subset
      exact absurd (subset (.head _)) List.not_mem_nil

end ProviderStore

end AcpTask.ControlPlane
