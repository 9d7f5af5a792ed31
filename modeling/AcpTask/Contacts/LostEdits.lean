import AcpTask.Contacts.Editing
import AcpTask.Contacts.Sendable

namespace AcpTask.Contacts

open Consent (Actor Channel)
open Library

/-! Two edits against one version both succeed exactly when one of them writes
after the record has moved. -/

variable {Version : Type}

def EditProgress.Succeeded : EditProgress Version → Prop
  | .written _ | .returned _ => True
  | _ => False

instance : DecidablePred (@EditProgress.Succeeded Version)
  | .called | .read _ | .checked | .failed _ | .absent => isFalse id
  | .written _ | .returned _ => isTrue trivial

namespace Editing

def BothSucceeded (editing : Editing Version) : Prop :=
  ∀ editor, (editing.progress editor).Succeeded

end Editing

section Versions

variable {setting : EditSetting Version}

theorem eq_of_recordVersion (injective : Function.Injective setting.hash)
    {first second : ContactRecord}
    (tenant : first.tenantId = second.tenantId)
    (same : recordVersion setting first.toContactFields =
      recordVersion setting second.toContactFields) : first = second := by
  have payload := injective same
  rcases first with ⟨fields, tenantId⟩
  rcases second with ⟨others, otherTenant⟩
  cases tenant
  cases (VersionPayload.mk.inj payload).1
  rfl

theorem recordVersion_edited_ne (injective : Function.Injective setting.hash)
    {record : ContactRecord} {changes : Changes}
    (changing : record.edited changes ≠ record) :
    recordVersion setting (record.edited changes).toContactFields ≠
      recordVersion setting record.toContactFields :=
  fun same => changing (eq_of_recordVersion injective rfl same)

end Versions

theorem exists_other (editor : Editor) : ∃ other, other ≠ editor := by
  cases editor with
  | first => exact ⟨.second, by decide⟩
  | second => exact ⟨.first, by decide⟩

section Steps

variable {setting : EditSetting Version} {call : EditCall Version}
  {row : Option ContactRecord}

theorem readContact_eq_read {contact : ContactRecord}
    (reads : readContact setting call row = .read contact) :
    row = some contact := by
  unfold readContact at reads
  split at reads
  · cases reads
  split at reads
  · cases reads
  split at reads
  · cases reads
  next found =>
    split at reads
    · cases reads
    · cases reads
    · cases reads
      rfl

theorem not_succeeded_readContact :
    ¬ (readContact setting call row).Succeeded := by
  unfold readContact
  split
  · exact id
  split
  · exact id
  split
  · exact id
  · split <;> exact id

theorem readContact_ne_checked : readContact setting call row ≠ .checked := by
  intro reads
  unfold readContact at reads
  split at reads
  · cases reads
  split at reads
  · cases reads
  split at reads
  · cases reads
  · split at reads <;> cases reads

variable [DecidableEq Version] {contact : ContactRecord}

theorem checkContact_cases :
    checkContact setting call contact = .checked ∧
        recordVersion setting contact.toContactFields = call.recordVersion ∨
      ∃ error, checkContact setting call contact = .failed error := by
  unfold checkContact
  dsimp only
  split
  · exact .inr ⟨_, rfl⟩
  next same =>
    split
    · exact .inr ⟨_, rfl⟩
    split
    · exact .inr ⟨_, rfl⟩
    split
    · exact .inr ⟨_, rfl⟩
    · exact .inl ⟨rfl, not_not.mp same⟩

end Steps

section Facts

variable (setting : EditSetting Version) (calls : Editor → EditCall Version)

def Undisturbed (editing : Editing Version) (editor : Editor) : Prop :=
  editing.progress editor = .checked →
    takesChanges setting (calls editor).changes = true →
      ∀ current ∈ editing.row,
        recordVersion setting current.toContactFields =
          (calls editor).recordVersion

/-- As long as no edit is lost: nothing is written and the row is as it was, or
one call has written and the row has another version. -/
structure Facts (version : Version) (stored : Option ContactRecord)
    (editing : Editing Version) : Prop where
  row : (∀ editor, ¬ (editing.progress editor).Succeeded) ∧
      editing.row = stored ∨
    (∃ editor, (editing.progress editor).Succeeded) ∧
      ∃ current, editing.row = some current ∧
        recordVersion setting current.toContactFields ≠ version
  read : ∀ editor contact, editing.progress editor = .read contact →
    stored = some contact ∨
      recordVersion setting contact.toContactFields ≠ version
  checked : ∀ editor, editing.progress editor = .checked →
    ∃ before, stored = some before ∧
      recordVersion setting before.toContactFields = version

variable {setting calls} {version : Version} {stored : Option ContactRecord}
  {editing : Editing Version} {editor : Editor}

theorem Facts.start : Facts setting version stored (Editing.start stored) where
  row := .inl ⟨fun _ => id, rfl⟩
  read := fun _ _ impossible => by cases impossible
  checked := fun _ impossible => by cases impossible

theorem progress_move_self (progress : EditProgress Version) :
    (editing.move editor progress).progress editor = progress :=
  Function.update_self ..

theorem progress_move_of_ne {other : Editor} (apart : other ≠ editor)
    (progress : EditProgress Version) :
    (editing.move editor progress).progress other = editing.progress other :=
  Function.update_of_ne apart ..

theorem succeeded_move_iff {progress : EditProgress Version}
    (same : progress.Succeeded ↔ (editing.progress editor).Succeeded)
    (other : Editor) :
    ((editing.move editor progress).progress other).Succeeded ↔
      (editing.progress other).Succeeded := by
  by_cases here : other = editor
  · subst here
    rw [progress_move_self]
    exact same
  · rw [progress_move_of_ne here]

theorem Facts.move (facts : Facts setting version stored editing)
    (exclusive : ¬ editing.BothSucceeded) {progress : EditProgress Version}
    (same : progress.Succeeded ↔ (editing.progress editor).Succeeded)
    (read : ∀ contact, progress = .read contact → stored = some contact ∨
      recordVersion setting contact.toContactFields ≠ version)
    (checked : progress = .checked → ∃ before, stored = some before ∧
      recordVersion setting before.toContactFields = version) :
    Facts setting version stored (editing.move editor progress) ∧
      ¬ (editing.move editor progress).BothSucceeded := by
  refine ⟨⟨?_, fun other contact found => ?_, fun other found => ?_⟩,
    fun both => exclusive fun other =>
      (succeeded_move_iff same other).mp (both other)⟩
  · simp only [succeeded_move_iff same]
    exact facts.row
  · by_cases here : other = editor
    · subst here
      rw [progress_move_self] at found
      exact read contact found
    · rw [progress_move_of_ne here] at found
      exact facts.read other contact found
  · by_cases here : other = editor
    · subst here
      rw [progress_move_self] at found
      exact checked found
    · rw [progress_move_of_ne here] at found
      exact facts.checked other found

theorem Facts.write (facts : Facts setting version stored editing)
    (injective : Function.Injective setting.hash)
    {before : ContactRecord} {changes : Changes}
    (named : recordVersion setting before.toContactFields = version)
    (changing : before.edited changes ≠ before) :
    Facts setting version stored
      { editing.move editor (.written (before.edited changes)) with
        row := some (before.edited changes) } := by
  refine ⟨.inr ⟨⟨editor, ?_⟩, _, rfl, ?_⟩, fun other contact found => ?_,
    fun other found => ?_⟩
  · show ((editing.move editor _).progress editor).Succeeded
    rw [progress_move_self]
    trivial
  · rw [← named]
    exact recordVersion_edited_ne injective changing
  · by_cases same : other = editor
    · subst same
      change (editing.move other _).progress other = _ at found
      rw [progress_move_self] at found
      cases found
    · change (editing.move editor _).progress other = _ at found
      rw [progress_move_of_ne same] at found
      exact facts.read other contact found
  · by_cases same : other = editor
    · subst same
      change (editing.move other _).progress other = _ at found
      rw [progress_move_self] at found
      cases found
    · change (editing.move editor _).progress other = _ at found
      rw [progress_move_of_ne same] at found
      exact facts.checked other found

theorem undisturbed_of_ne_checked
    (unchecked : editing.progress editor ≠ .checked) :
    Undisturbed setting calls editing editor :=
  fun checked => absurd checked unchecked

end Facts

section Runs

variable [DecidableEq Version] {setting : EditSetting Version}
  {calls : Editor → EditCall Version} {version : Version}
  {stored : Option ContactRecord} {editing : Editing Version}
  {editor : Editor}

theorem progress_editStep {other : Editor} (apart : other ≠ editor) :
    (editStep setting calls editing editor).progress other =
      editing.progress other := by
  unfold editStep
  split
  · exact progress_move_of_ne apart _
  · exact progress_move_of_ne apart _
  · exact progress_move_of_ne apart _
  · exact progress_move_of_ne apart _
  · rfl
  · rfl
  · rfl

theorem succeeded_editStep {other : Editor}
    (succeeded : (editing.progress other).Succeeded) :
    ((editStep setting calls editing editor).progress other).Succeeded := by
  by_cases same : other = editor
  · subst same
    cases found : editing.progress other with
    | written =>
        simp only [editStep, found, progress_move_self]
        trivial
    | returned =>
        simp only [editStep, found]
        trivial
    | called | read _ | checked | failed _ | absent =>
        rw [found] at succeeded
        exact succeeded.elim
  · rw [progress_editStep same]
    exact succeeded

theorem facts_of_write (injective : Function.Injective setting.hash)
    (same : ∀ editor, (calls editor).recordVersion = version)
    (changing : ∀ record ∈ stored, ∀ editor,
      record.edited (calls editor).changes ≠ record)
    (facts : Facts setting version stored editing)
    (exclusive : ¬ editing.BothSucceeded)
    (found : editing.progress editor = .checked) :
    Undisturbed setting calls editing editor ∧
        Facts setting version stored (editStep setting calls editing editor) ∧
        ¬ (editStep setting calls editing editor).BothSucceeded ∨
      ¬ Undisturbed setting calls editing editor ∧
        (editStep setting calls editing editor).BothSucceeded := by
  have unfinished : ¬ (editing.progress editor).Succeeded := by
    rw [found]
    exact id
  obtain ⟨before, was, named⟩ := facts.checked editor found
  cases takes : takesChanges setting (calls editor).changes with
  | false =>
      have step : editStep setting calls editing editor =
          editing.move editor (.failed (.contacts .refused)) := by
        simp only [editStep, found, writeContact, takes]
        rfl
      rw [step]
      refine .inl ⟨fun _ impossible => ?_, facts.move exclusive
        (iff_of_false id unfinished) (fun _ impossible => by cases impossible)
        (fun impossible => by cases impossible)⟩
      rw [takes] at impossible
      cases impossible
  | true =>
      rcases facts.row with ⟨nobody, row⟩ | ⟨⟨winner, won⟩, current, row, moved⟩
      · have step : editStep setting calls editing editor =
            { editing.move editor
                (.written (before.edited (calls editor).changes)) with
              row := some (before.edited (calls editor).changes) } := by
          simp only [editStep, found, writeContact, takes, row, was, if_true]
        refine .inl ⟨fun _ _ current present => ?_,
          step ▸ facts.write injective named (changing before was editor),
          fun both => ?_⟩
        · rw [row, was] at present
          cases present
          exact named.trans (same editor).symm
        · obtain ⟨other, apart⟩ := exists_other editor
          have succeeded := both other
          rw [progress_editStep apart] at succeeded
          exact nobody other succeeded
      · have apart : winner ≠ editor := by
          rintro rfl
          exact unfinished won
        have wrote : ((editStep setting calls editing editor).progress
            editor).Succeeded := by
          simp only [editStep, found, writeContact, takes, row, if_true]
          rw [progress_move_self]
          trivial
        refine .inr ⟨fun undisturbed => ?_, fun other => ?_⟩
        · exact moved ((undisturbed found takes current row).trans
            (same editor))
        · by_cases here : other = editor
          · rw [here]
            exact wrote
          · have others : other = winner := by
              cases other <;> cases winner <;> cases editor <;> simp_all
            rw [others]
            exact succeeded_editStep won

theorem editStep_facts (injective : Function.Injective setting.hash)
    (same : ∀ editor, (calls editor).recordVersion = version)
    (changing : ∀ record ∈ stored, ∀ editor,
      record.edited (calls editor).changes ≠ record)
    (facts : Facts setting version stored editing)
    (exclusive : ¬ editing.BothSucceeded) (editor : Editor) :
    Undisturbed setting calls editing editor ∧
        Facts setting version stored (editStep setting calls editing editor) ∧
        ¬ (editStep setting calls editing editor).BothSucceeded ∨
      ¬ Undisturbed setting calls editing editor ∧
        (editStep setting calls editing editor).BothSucceeded := by
  cases found : editing.progress editor with
  | checked =>
      exact facts_of_write injective same changing facts exclusive found
  | called =>
      refine .inl ⟨undisturbed_of_ne_checked (by simp [found]), ?_⟩
      simp only [editStep, found]
      refine facts.move exclusive
        (iff_of_false not_succeeded_readContact (by rw [found]; exact id))
        (fun contact reads => ?_)
        fun impossible => absurd impossible readContact_ne_checked
      have present := readContact_eq_read reads
      rcases facts.row with ⟨_, row⟩ | ⟨_, _, row, moved⟩
      · exact .inl (row.symm.trans present)
      · rw [row] at present
        cases present
        exact .inr moved
  | read contact =>
      refine .inl ⟨undisturbed_of_ne_checked (by simp [found]), ?_⟩
      simp only [editStep, found]
      rcases @checkContact_cases _ setting (calls editor) _ contact with
        ⟨passes, named⟩ | ⟨error, fails⟩
      · rw [passes]
        refine facts.move exclusive
          (iff_of_false id (by rw [found]; exact id))
          (fun _ impossible => by cases impossible) fun _ => ?_
        have version := named.trans (same editor)
        exact ⟨contact, (facts.read editor contact found).resolve_right
          (not_not.mpr version), version⟩
      · rw [fails]
        exact facts.move exclusive
          (iff_of_false id (by rw [found]; exact id))
          (fun _ impossible => by cases impossible)
          (fun impossible => by cases impossible)
  | written =>
      refine .inl ⟨undisturbed_of_ne_checked (by simp [found]), ?_⟩
      simp only [editStep, found]
      exact facts.move exclusive (by rw [found]; exact Iff.rfl)
        (fun _ impossible => by cases impossible)
        (fun impossible => by cases impossible)
  | failed | absent | returned =>
      refine .inl ⟨undisturbed_of_ne_checked (by simp [found]), ?_⟩
      simp only [editStep, found]
      exact ⟨facts, exclusive⟩

def editRun (setting : EditSetting Version) (calls : Editor → EditCall Version)
    (stored : Option ContactRecord) (actions : List Editor) :
    Editing Version :=
  run (editStep setting calls) (Editing.start stored) actions

/-- Of two edits that name one version and change its record, at most one
succeeds throughout a run, exactly when each writes over that version. -/
theorem edits_exclusive_iff (setting : EditSetting Version)
    (injective : Function.Injective setting.hash)
    (calls : Editor → EditCall Version)
    (same : (calls .first).recordVersion = (calls .second).recordVersion)
    (stored : Option ContactRecord)
    (changing : ∀ record ∈ stored, ∀ editor,
      record.edited (calls editor).changes ≠ record)
    (actions : List Editor) :
    (∀ earlier later, actions = earlier ++ later →
      ¬ (editRun setting calls stored earlier).BothSucceeded) ↔
        Along (editStep setting calls) (Undisturbed setting calls)
          (Editing.start stored) actions := by
  have named : ∀ editor,
      (calls editor).recordVersion = (calls .first).recordVersion := by
    intro editor
    cases editor with
    | first => rfl
    | second => exact same.symm
  have step := fun editing facts exclusive editor =>
    @editStep_facts Version _ setting calls (calls .first).recordVersion
      stored editing injective named changing facts exclusive editor
  refine Along.forall_prefix_iff
    (fun editing => ¬ editing.BothSucceeded →
      Facts setting (calls .first).recordVersion stored editing)
    (fun editing => ¬ editing.BothSucceeded) ?_ ?_ (fun _ => Facts.start)
    (fun both => both .first) actions
  · intro editing editor safe exclusive
    have before : ¬ editing.BothSucceeded := fun both =>
      exclusive fun other => succeeded_editStep (both other)
    rcases step editing (safe before) before editor with
      ⟨_, facts, _⟩ | ⟨_, both⟩
    · exact facts
    · exact absurd both exclusive
  · intro editing editor safe exclusive
    rcases step editing (safe exclusive) exclusive editor with
      ⟨undisturbed, _, after⟩ | ⟨disturbed, both⟩
    · exact iff_of_true after undisturbed
    · exact iff_of_false (not_not.mpr both) disturbed

def editSetting : EditSetting VersionPayload where
  library := asciiLibrary
  tenantId := "org:acme"
  branches := Directory.acme.branches
  permissions := {
    rows := [⟨"perm:1", "org:acme", "branch:1", "principal:ann", .edit, .grant⟩]
    unique := by decide }
  addresses := []
  hash := id
  storesText := fun _ => true

def ana : ContactRecord where
  contactId := "contact:1"
  primaryBranchId := "branch:1"
  identity := fun field => if field = .displayName then some "Ana" else none
  status := .active
  mergedIntoContactId := none
  source := "manual"
  tenantId := "org:acme"

def titled (jobTitle : String) : EditCall VersionPayload where
  actor := ⟨.human, some "principal:ann", [Consent.administer]⟩
  recordVersion := recordVersion editSetting ana.toContactFields
  changes := [("job_title", some jobTitle)]

def titles : Editor → EditCall VersionPayload
  | .first => titled "Chef"
  | .second => titled "Owner"

def overlapping : List Editor :=
  [.first, .second, .first, .second, .first, .second]

theorem titles_change (record : ContactRecord) (present : record ∈ some ana)
    (editor : Editor) : record.edited (titles editor).changes ≠ record := by
  cases present
  cases editor <;> decide +kernel

theorem edits_exclusive_iff_titles :
    (∀ earlier later, overlapping = earlier ++ later →
      ¬ (editRun editSetting titles (some ana) earlier).BothSucceeded) ↔
        Along (editStep editSetting titles) (Undisturbed editSetting titles)
          (Editing.start (some ana)) overlapping :=
  edits_exclusive_iff editSetting Function.injective_id titles rfl (some ana)
    titles_change overlapping

/-- Both titles are written, and only the second is left. -/
theorem title_lost :
    ¬ ∀ earlier later, overlapping = earlier ++ later →
      ¬ (editRun editSetting titles (some ana) earlier).BothSucceeded := by
  intro exclusive
  refine exclusive overlapping [] (List.append_nil _).symm fun editor => ?_
  cases editor <;> decide +kernel

end Runs

end AcpTask.Contacts
