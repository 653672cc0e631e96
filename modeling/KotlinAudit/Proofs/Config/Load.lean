import KotlinAudit.Config.Load
import KotlinAudit.Proofs.Outcome
import KotlinAudit.Proofs.Record.Checked
import Mathlib.Data.List.Basic

/-! When settings are loaded or found to be wrong. Loading reports what is wrong with the settings of a
project, but not every file that could hold them is read so far: octets that are no text, numbers without
end, values too deep within each other and sections that are no tables come to light before the settings
themselves are looked at, and their errors are of another kind. -/
namespace KotlinAudit.Config

variable {α β : Type}

/-- An outcome that is an error of another kind than wrong settings. -/
def Escapes (outcome : Except LoadError α) : Prop :=
  ∃ error, outcome = .error error ∧ error.isReported = false

theorem not_escapes_ok (value : α) : ¬Escapes (.ok value) := by
  rintro ⟨error, h, -⟩
  cases h

theorem escapes_error_iff {error : LoadError} :
    Escapes (.error error : Except LoadError α) ↔ error.isReported = false := by
  constructor
  · rintro ⟨other, h, hother⟩
    cases h
    exact hother
  · exact fun h => ⟨error, rfl, h⟩

theorem escapes_bind_iff {first : Except LoadError α} {next : α → Except LoadError β} :
    Escapes (first >>= next) ↔
      Escapes first ∨ ∃ value, first = .ok value ∧ Escapes (next value) := by
  cases first with
  | error error =>
    change Escapes (.error error : Except LoadError β) ↔ _
    rw [escapes_error_iff, escapes_error_iff]
    simp
  | ok value =>
    change Escapes (next value) ↔ _
    simp [not_escapes_ok]

/-! ### Files -/

/-- The files that are looked for: the one that was asked for, else the project's own settings file, and
behind that the one that it shares with other tools. -/
inductive Sought (tree : FileTree) (root : Path) : Option Path → Path → Prop
  | asked (path : Path) : Sought tree root (some path) path
  | own : Sought tree root none (root.child fileName)
  | shared (h : tree.hasFile (root.child fileName) = .ok false) :
    Sought tree root none (root.child sharedFileName)

/-- The file that is read. -/
structure Chosen (tree : FileTree) (root : Path) (asked : Option Path) (path : Path) : Prop where
  sought : Sought tree root asked path
  there : tree.hasFile path = .ok true

/-- A file holds a table in the notation. -/
def Written (tree : FileTree) (path : Path) (table : Toml.Table) : Prop :=
  ∃ text : String, tree.content path = .ok (.text text) ∧ Toml.read text.toList = .ok table

/-- A file holds no text, or a text that is not read to its end. -/
inductive Unread (tree : FileTree) (path : Path) : Prop
  | octets (octets : ByteArray) (h : tree.content path = .ok (.binary octets))
  | fault (text : String) (fault : Toml.Fault) (h : tree.content path = .ok (.text text))
    (hread : Toml.read text.toList = .error fault) (hfault : fault ≠ .malformed)

theorem escapes_isFile_iff {tree : FileTree} {path : Path} :
    Escapes (isFile tree path) ↔ ∃ error, tree.hasFile path = .error error := by
  unfold isFile
  cases tree.hasFile path with
  | ok found => simp [not_escapes_ok]
  | error error => simp [escapes_error_iff, LoadError.isReported]

theorem isFile_eq_ok {tree : FileTree} {path : Path} {found : Bool} :
    isFile tree path = .ok found ↔ tree.hasFile path = .ok found := by
  unfold isFile
  cases tree.hasFile path with
  | ok other => simp
  | error error => simp

theorem escapes_readFile_iff {tree : FileTree} {path : Path} :
    Escapes (readFile tree path) ↔ Unread tree path := by
  unfold readFile
  cases hcontent : tree.content path with
  | error error =>
    refine iff_of_false (fun h => Bool.noConfusion (escapes_error_iff.1 h)) ?_
    rintro (⟨octets, h⟩ | ⟨text, fault, h, -, -⟩)
    · cases hcontent.symm.trans h
    · cases hcontent.symm.trans h
  | ok content =>
    cases content with
    | binary octets => exact iff_of_true (escapes_error_iff.2 rfl) (.octets octets hcontent)
    | text text =>
      have hunread : Unread tree path ↔
          ∃ fault, Toml.read text.toList = .error fault ∧ fault ≠ .malformed := by
        constructor
        · rintro (⟨octets, h⟩ | ⟨other, fault, h, hread, hfault⟩)
          · cases hcontent.symm.trans h
          · cases hcontent.symm.trans h
            exact ⟨fault, hread, hfault⟩
        · rintro ⟨fault, hread, hfault⟩
          exact .fault text fault hcontent hread hfault
      rw [hunread]
      dsimp only
      cases Toml.read text.toList with
      | ok table => simp [not_escapes_ok]
      | error fault => cases fault <;> simp [escapes_error_iff, LoadError.isReported]

theorem readFile_eq_ok {tree : FileTree} {path : Path} {table : Toml.Table} :
    readFile tree path = .ok table ↔ Written tree path table := by
  unfold readFile Written
  cases tree.content path with
  | error error => simp
  | ok content =>
    cases content with
    | binary octets => simp
    | text text =>
      cases hread : Toml.read text.toList with
      | ok found => simp [hread]
      | error fault => cases fault <;> simp [hread]

/-! ### Sections -/

/-- An item of a list of pairs: two values, of which the first one is a text. Of a table the names count,
and of a text its characters. -/
inductive Pair : Setting → Prop
  | array (name : String) (value : Setting) : Pair (.array [.plain (.text name), value])
  | table (first second : String × Setting) : Pair (.table [first, second])
  | text (text : String) (h : text.toList.length = 2) : Pair (.plain (.text text))

/-- What can stand for the fields of a section: a table, a list of pairs, or a text without anything. -/
inductive Sectional : Setting → Prop
  | table (fields : Toml.Table) : Sectional (.table fields)
  | array (items : List Setting) (h : ∀ item ∈ items, Pair item) : Sectional (.array items)
  | text : Sectional (.plain (.text ""))

/-- Errors of these computations are all of another kind than wrong settings. -/
def Foreign (outcome : Except LoadError α) : Prop :=
  ∀ error, outcome = .error error → error.isReported = false

theorem Foreign.escapes_iff {outcome : Except LoadError α} (h : Foreign outcome) :
    Escapes outcome ↔ ¬∃ value, outcome = .ok value := by
  cases outcome with
  | ok value => simp [not_escapes_ok]
  | error error => simp [escapes_error_iff, h error rfl]

theorem Foreign.bind {first : Except LoadError α} (h : Foreign first)
    {next : α → Except LoadError β} (hnext : ∀ value, Foreign (next value)) :
    Foreign (first >>= next) := by
  intro error herror
  cases first with
  | error other =>
    cases herror
    exact h error rfl
  | ok value => exact hnext value error herror

theorem Foreign.mapM {step : α → Except LoadError β} (h : ∀ item, Foreign (step item))
    (items : List α) : Foreign (items.mapM step) := by
  intro error herror
  obtain ⟨item, -, hitem⟩ := Outcome.exists_item_of_mapM_error herror
  exact h item error hitem

theorem foreign_pairOf (item : Setting) : Foreign (pairOf item) := by
  refine .bind ?_ fun parts => ?_
  · intro error herror
    unfold partsOf at herror
    split at herror
    all_goals
      cases herror
      try rfl
  · intro error herror
    split at herror
    all_goals
      cases herror
      try rfl

theorem pairOf_text (text : String) : pairOf (.plain (.text text)) =
    pairOf (.array (text.toList.map fun c => .plain (.text c.toString))) := rfl

theorem pairOf_table (fields : Toml.Table) : pairOf (.table fields) =
    pairOf (.array (fields.map fun (name, _) => .plain (.text name))) := rfl

/-- A pair with its name is a list of a text and a value. -/
theorem pairOf_array_eq_ok_iff {parts : List Setting} {name : String} {value : Setting} :
    pairOf (.array parts) = .ok (some name, value) ↔ parts = [.plain (.text name), value] := by
  constructor
  · intro h
    obtain ⟨found, hfound, h⟩ := Outcome.bind_eq_ok.1 h
    cases hfound
    split at h
    · cases h
    · cases h
    · cases h
      rfl
    · cases h
    · cases h
  · rintro rfl
    rfl

theorem exists_pairOf_iff {item : Setting} :
    (∃ name value, pairOf item = .ok (some name, value)) ↔ Pair item := by
  constructor
  · rintro ⟨name, value, h⟩
    cases item with
    | moment => cases h
    | array parts =>
      rw [pairOf_array_eq_ok_iff.1 h]
      exact .array name value
    | table fields =>
      rw [pairOf_table, pairOf_array_eq_ok_iff] at h
      obtain ⟨first, second, rfl⟩ := List.length_eq_two.1
        ((List.length_map _).symm.trans (congrArg List.length h))
      exact .table first second
    | plain plain =>
      cases plain with
      | text text =>
        rw [pairOf_text, pairOf_array_eq_ok_iff] at h
        exact .text text ((List.length_map _).symm.trans (congrArg List.length h))
      | _ => cases h
  · intro h
    cases h with
    | array name value => exact ⟨name, value, rfl⟩
    | table first second => exact ⟨first.1, .plain (.text second.1), rfl⟩
    | text text h =>
      obtain ⟨c, d, hchars⟩ := List.length_eq_two.1 h
      refine ⟨c.toString, .plain (.text d.toString), ?_⟩
      rw [pairOf_text, hchars]
      rfl

/-- The fields that some pairs with their names stand for. -/
theorem fieldsOf_array (items : List Setting) : fieldsOf (.array items) =
    (items.mapM pairOf >>= fun pairs => pairs.mapM (fun (name, value) =>
      match name with
      | some name => .ok (name, value)
      | none => .error .noSection) >>= fun named => pure (Keyed.ofList named)) := rfl

theorem fieldsOf_text (text : String) : fieldsOf (.plain (.text text)) =
    fieldsOf (.array (text.toList.map fun c => .plain (.text c.toString))) := rfl

theorem foreign_fieldsOf_array (items : List Setting) : Foreign (fieldsOf (.array items)) := by
  rw [fieldsOf_array]
  refine .bind (.mapM foreign_pairOf items) fun pairs => .bind (.mapM ?_ pairs) fun named => ?_
  · rintro ⟨name, value⟩ error herror
    cases name with
    | some name => cases herror
    | none =>
      cases herror
      rfl
  · exact fun _ herror => by cases herror

theorem exists_fieldsOf_array_iff {items : List Setting} :
    (∃ fields, fieldsOf (.array items) = .ok fields) ↔ ∀ item ∈ items, Pair item := by
  rw [fieldsOf_array]
  constructor
  · rintro ⟨fields, h⟩ item hitem
    obtain ⟨pairs, hpairs, h⟩ := Outcome.bind_eq_ok.1 h
    obtain ⟨named, hnamed, -⟩ := Outcome.bind_eq_ok.1 h
    obtain ⟨⟨name, value⟩, hmem, hpair⟩ := Outcome.exists_mem_of_mapM hpairs item hitem
    obtain ⟨_, -, hname⟩ := Outcome.exists_mem_of_mapM hnamed _ hmem
    cases name with
    | none => cases hname
    | some name => exact exists_pairOf_iff.1 ⟨name, value, hpair⟩
  · intro h
    have hpairs : ∀ item ∈ items, ∃ pair : String × Setting,
        pairOf item = .ok (some pair.1, pair.2) := by
      intro item hitem
      obtain ⟨name, value, hpair⟩ := exists_pairOf_iff.2 (h item hitem)
      exact ⟨(name, value), hpair⟩
    choose! pair hpair using hpairs
    rw [Outcome.mapM_of_forall hpair]
    refine ⟨_, Outcome.bind_eq_ok.2 ⟨_, rfl, Outcome.bind_eq_ok.2
      ⟨items.map pair, ?_, rfl⟩⟩⟩
    rw [List.mapM_map]
    exact Outcome.mapM_of_forall fun _ _ => rfl

/-- The characters of a text are no pairs, so only a text without any stands for fields. -/
theorem sectional_text_iff {text : String} : Sectional (.plain (.text text)) ↔
    ∀ item ∈ text.toList.map fun c => Setting.plain (.text c.toString), Pair item := by
  constructor
  · intro h
    cases h
    exact List.forall_mem_nil _
  · intro h
    cases hchars : text.toList with
    | nil =>
      rw [String.toList_eq_nil_iff.1 hchars]
      exact .text
    | cons c rest =>
      rw [hchars, List.map_cons, List.forall_mem_cons] at h
      cases h.1 with
      | text _ hlength => simp at hlength

theorem escapes_fieldsOf_iff {value : Setting} : Escapes (fieldsOf value) ↔ ¬Sectional value := by
  cases value with
  | table fields => exact iff_of_false (not_escapes_ok fields) (not_not_intro (.table fields))
  | moment => exact iff_of_true ⟨.noSection, rfl, rfl⟩ nofun
  | array items =>
    rw [(foreign_fieldsOf_array items).escapes_iff, exists_fieldsOf_array_iff, not_iff_not]
    exact ⟨.array items, fun h => by cases h; assumption⟩
  | plain plain =>
    cases plain with
    | text text =>
      rw [fieldsOf_text, (foreign_fieldsOf_array _).escapes_iff, exists_fieldsOf_array_iff,
        sectional_text_iff]
    | _ => exact iff_of_true ⟨.noSection, rfl, rfl⟩ nofun

/-- What a shared settings file holds under the name of its tools is no table, or what this holds for this
program can stand for no fields. -/
inductive Unsectioned (table : Toml.Table) : Prop
  | holder (value : Setting) (h : table.lookup "tool" = some value)
    (hvalue : ∀ tools, value ≠ .table tools)
  | fields (tools : Toml.Table) (value : Setting) (h : table.lookup "tool" = some (.table tools))
    (hvalue : tools.lookup "codeqa" = some value) (hfields : ¬Sectional value)

theorem escapes_section_iff {table : Toml.Table} :
    Escapes (sectionOf table >>= fieldsOf) ↔ Unsectioned table := by
  unfold sectionOf
  cases hholder : table.lookup "tool" with
  | none =>
    refine iff_of_false (not_escapes_ok _) ?_
    rintro (⟨value, h, -⟩ | ⟨tools, value, h, -, -⟩)
    · cases hholder.symm.trans h
    · cases hholder.symm.trans h
  | some holder =>
    cases holder with
    | table tools =>
      change Escapes (fieldsOf _) ↔ _
      rw [escapes_fieldsOf_iff]
      constructor
      · intro h
        cases hvalue : tools.lookup "codeqa" with
        | none =>
          rw [hvalue] at h
          exact absurd (.table []) h
        | some value =>
          rw [hvalue] at h
          exact .fields tools value hholder hvalue h
      · rintro (⟨value, h, hvalue⟩ | ⟨others, value, h, hvalue, hfields⟩)
        · cases hholder.symm.trans h
          exact absurd rfl (hvalue tools)
        · cases hholder.symm.trans h
          rwa [hvalue]
    | _ => exact iff_of_true ⟨.noTable, rfl, rfl⟩ (.holder _ hholder (by simp))

/-! ### Loading -/

section Load

variable {tree : FileTree} {root : Path} {processors : Option Int} {asked : Option Path}

/-- What a file gives: all of it, or its section where it is shared. -/
def given (tree : FileTree) (path : Path) : Except LoadError Setting := do
  let table ← readFile tree path
  if path.name = sharedFileName then sectionOf table else return .table table

theorem locate_some (tree : FileTree) (root path : Path) : locate tree root (some path) =
    (isFile tree path >>= fun found =>
      if found then given tree path else .error (.missing path)) := by
  unfold locate given
  dsimp only
  cases isFile tree path with
  | error error => rfl
  | ok found => cases found <;> rfl

theorem locate_none (tree : FileTree) (root : Path) : locate tree root none =
    (isFile tree (root.child fileName) >>= fun found =>
      if found then given tree (root.child fileName)
      else isFile tree (root.child sharedFileName) >>= fun found =>
        if found then given tree (root.child sharedFileName) else .ok (.table [])) := by
  have hown : (root.child fileName).name ≠ sharedFileName := by
    simp [Path.child, Path.name, fileName, sharedFileName]
  have hshared : (root.child sharedFileName).name = sharedFileName := by
    simp [Path.child, Path.name]
  unfold locate given
  simp only [if_neg hown, if_pos hshared]
  rfl

/-- Nothing is made of a file that is there. -/
inductive Broken (tree : FileTree) (path : Path) : Prop
  | unread (h : Unread tree path)
  | unsectioned (table : Toml.Table) (hname : path.name = sharedFileName)
    (htable : Written tree path table) (h : Unsectioned table)

theorem escapes_given_iff {path : Path} : Escapes (given tree path >>= fieldsOf) ↔ Broken tree path := by
  have hsection : ∀ table, Escapes ((if path.name = sharedFileName then sectionOf table
      else pure (.table table)) >>= fieldsOf) ↔ path.name = sharedFileName ∧ Unsectioned table := by
    intro table
    split
    · next hname => rw [escapes_section_iff, and_iff_right hname]
    · next hname => exact iff_of_false (not_escapes_ok table) fun h => hname h.1
  unfold given
  rw [bind_assoc, escapes_bind_iff, escapes_readFile_iff]
  simp only [hsection, readFile_eq_ok]
  constructor
  · rintro (h | ⟨table, htable, hname, h⟩)
    · exact .unread h
    · exact .unsectioned table hname htable h
  · rintro (h | ⟨table, hname, htable, h⟩)
    · exact .inl h
    · exact .inr ⟨table, htable, hname, h⟩

/-- What keeps the loading of settings from an answer, whatever the settings are: a file cannot be asked
for, nothing is made of the one that is read, or three quarters of the processors are no number where
the settings leave the count of jobs to that. -/
inductive Obstacle (tree : FileTree) (root : Path) (processors : Option Int) (asked : Option Path) : Prop
  | place (path : Path) (error : FileError) (hsought : Sought tree root asked path)
    (h : tree.hasFile path = .error error)
  | broken (path : Path) (hchosen : Chosen tree root asked path) (h : Broken tree path)
  | processors (fields : Toml.Table) (hfields : (locate tree root asked >>= fieldsOf) = .ok fields)
    (hjobs : leavesJobs fields = true) (h : defaultJobs? processors = none)

/-- A file that is looked for and read if it is there. -/
theorem escapes_file_iff {path : Path} {missing : Except LoadError Setting} :
    Escapes ((isFile tree path >>= fun found => if found then given tree path else missing) >>=
        fieldsOf) ↔
      (∃ error, tree.hasFile path = .error error) ∨ (tree.hasFile path = .ok true ∧ Broken tree path) ∨
        tree.hasFile path = .ok false ∧ Escapes (missing >>= fieldsOf) := by
  rw [bind_assoc, escapes_bind_iff, escapes_isFile_iff]
  simp only [isFile_eq_ok, Bool.exists_bool, if_pos, Bool.false_eq_true, if_false, escapes_given_iff]
  rw [or_comm (a := _ ∧ Escapes _)]

theorem escapes_fields_iff : Escapes (locate tree root asked >>= fieldsOf) ↔
    (∃ path error, Sought tree root asked path ∧ tree.hasFile path = .error error) ∨
      ∃ path, Chosen tree root asked path ∧ Broken tree path := by
  cases asked with
  | some path =>
    have hmissing : ¬Escapes ((.error (.missing path) : Except LoadError Setting) >>= fieldsOf) :=
      fun h => Bool.noConfusion (escapes_error_iff.1 h)
    rw [locate_some, escapes_file_iff]
    constructor
    · rintro (⟨error, h⟩ | ⟨hthere, h⟩ | ⟨-, h⟩)
      · exact .inl ⟨path, error, .asked path, h⟩
      · exact .inr ⟨path, ⟨.asked path, hthere⟩, h⟩
      · exact absurd h hmissing
    · rintro (⟨_, error, ⟨⟩, h⟩ | ⟨_, ⟨⟨⟩, hthere⟩, h⟩)
      · exact .inl ⟨error, h⟩
      · exact .inr (.inl ⟨hthere, h⟩)
  | none =>
    have hnone : ¬Escapes ((.ok (.table []) : Except LoadError Setting) >>= fieldsOf) :=
      not_escapes_ok []
    rw [locate_none, escapes_file_iff, escapes_file_iff]
    constructor
    · rintro (⟨error, h⟩ | ⟨hthere, h⟩ | ⟨hown, ⟨error, h⟩ | ⟨hthere, h⟩ | ⟨-, h⟩⟩)
      · exact .inl ⟨_, error, .own, h⟩
      · exact .inr ⟨_, ⟨.own, hthere⟩, h⟩
      · exact .inl ⟨_, error, .shared hown, h⟩
      · exact .inr ⟨_, ⟨.shared hown, hthere⟩, h⟩
      · exact absurd h hnone
    · rintro (⟨_, error, hsought, h⟩ | ⟨_, ⟨hsought, hthere⟩, h⟩)
      · cases hsought with
        | own => exact .inl ⟨error, h⟩
        | shared hown => exact .inr (.inr ⟨hown, .inl ⟨error, h⟩⟩)
      · cases hsought with
        | own => exact .inr (.inl ⟨hthere, h⟩)
        | shared hown => exact .inr (.inr ⟨hown, .inr (.inl ⟨hthere, h⟩)⟩)

/-- A root among the settings says nothing about jobs. -/
theorem leavesJobs_filter (fields : Toml.Table) :
    leavesJobs (fields.filter (·.1 != "root")) = leavesJobs fields := by
  have hlookup : (fields.filter (·.1 != "root")).lookup "execution" = fields.lookup "execution" := by
    induction fields with
    | nil => rfl
    | cons field rest ih =>
      obtain ⟨name, value⟩ := field
      rw [List.filter_cons]
      split
      · rw [List.lookup_cons, List.lookup_cons, ih]
      · next hroot =>
        have hname : name = "root" := by simpa using hroot
        rw [ih, List.lookup_cons, hname]
        rfl
  rw [leavesJobs, hlookup, ← leavesJobs.eq_def]

/-- The settings keep the root that they are read for. -/
theorem root_of_read {root : Path} {jobs : Int} {fields : Record.Fields Setting} {config : Config}
    (h : (Config.read root jobs fields).toExcept = .ok config) : config.root = root := by
  rw [Record.Checked.toExcept_eq_ok] at h
  unfold Config.read Record.Fields.closed at h
  split at h
  · simp only [Record.Checked.value?_seq, Record.Checked.value?_map] at h
    simp only [Record.Fields.value?_withDefault, Option.bind_eq_some_iff, Option.map_eq_some_iff] at h
    obtain ⟨_, ⟨_, ⟨_, ⟨discovery, -, rfl⟩, execution, -, rfl⟩, linter, -, rfl⟩, output, -, rfl⟩ := h
    rfl
  · cases h

theorem load_eq (tree : FileTree) (root : Path) (processors : Option Int) (asked : Option Path) :
    load tree root processors asked = (locate tree root asked >>= fieldsOf) >>= fun fields =>
      if (defaultJobs? processors).isNone && leavesJobs fields then .error .tooManyProcessors
      else match (Config.read root ((defaultJobs? processors).getD 1)
          (fields.filter (·.1 != "root"))).toExcept with
        | .ok config => .ok config
        | .error faults => .error (.invalid faults) := by
  unfold load
  rw [bind_assoc]
  simp only [leavesJobs_filter]
  rfl

/-- The settings of a project with the root that was asked about, or an error that is reported. -/
def Answers (root : Path) (outcome : Except LoadError Config) : Prop :=
  (∃ config, outcome = .ok config ∧ config.root = root) ∨
    ∃ error, outcome = .error error ∧ error.isReported = true

/-- Loading answers exactly if it does not end with an error of another kind. -/
theorem answers_load_iff :
    Answers root (load tree root processors asked) ↔ ¬Escapes (load tree root processors asked) := by
  cases hload : load tree root processors asked with
  | error error => simp [Answers, escapes_error_iff]
  | ok config =>
    refine iff_of_true (.inl ⟨config, rfl, ?_⟩) (not_escapes_ok config)
    rw [load_eq] at hload
    obtain ⟨fields, -, hload⟩ := Outcome.bind_eq_ok.1 hload
    split at hload
    · cases hload
    split at hload
    · next hread =>
      cases hload
      exact root_of_read hread
    · cases hload

/-- For every project, and whatever stands in its settings files, loading gives settings with the
project's root or reports what is wrong, exactly if there is no obstacle. -/
theorem load_answers_iff (tree : FileTree) (root : Path) (processors : Option Int)
    (asked : Option Path) :
    Answers root (load tree root processors asked) ↔ ¬Obstacle tree root processors asked := by
  -- Once there are fields, only the number of jobs can be missing without a report.
  have hrest : ∀ fields, Escapes (if (defaultJobs? processors).isNone && leavesJobs fields then
        .error .tooManyProcessors
      else match (Config.read root ((defaultJobs? processors).getD 1)
          (fields.filter (·.1 != "root"))).toExcept with
        | .ok config => .ok config
        | .error faults => .error (.invalid faults) : Except LoadError Config) ↔
      leavesJobs fields = true ∧ defaultJobs? processors = none := by
    intro fields
    split
    · next hjobs =>
      rw [Bool.and_eq_true_iff, Option.isNone_iff_eq_none] at hjobs
      exact iff_of_true ⟨_, rfl, rfl⟩ hjobs.symm
    · next hjobs =>
      rw [Bool.and_eq_true_iff, Option.isNone_iff_eq_none] at hjobs
      refine iff_of_false ?_ fun h => hjobs h.symm
      split
      · exact not_escapes_ok _
      · exact fun h => Bool.noConfusion (escapes_error_iff.1 h)
  rw [answers_load_iff, not_iff_not, load_eq, escapes_bind_iff, escapes_fields_iff]
  simp only [hrest]
  constructor
  · rintro ((⟨path, error, hsought, h⟩ | ⟨path, hchosen, h⟩) | ⟨fields, hfields, hjobs, h⟩)
    · exact .place path error hsought h
    · exact .broken path hchosen h
    · exact .processors fields hfields hjobs h
  · rintro (⟨path, error, hsought, h⟩ | ⟨path, hchosen, h⟩ | ⟨fields, hfields, hjobs, h⟩)
    · exact .inl (.inl ⟨path, error, hsought, h⟩)
    · exact .inl (.inr ⟨path, hchosen, h⟩)
    · exact .inr ⟨fields, hfields, hjobs, h⟩

end Load

end KotlinAudit.Config
