/-
# Kickstart.Proofs.Settings.Section -- the sections that can be read

A section is `null`, an object of which only the member `linting` counts, or an array of at
most one item, and what stands for `linting` is again an object or an array, of two switches.
`SectionValue` and `LintingValue` are this grammar, with the settings that a value gives;
`SectionFault` and `LintingFault` say what is wrong with any other value, and of several things
which one is told: in an object the one whose name comes first in byte order, in an array the
one that stands first, and that there are too many items only if all else is right.

Members are looked up by name (`memberOr`), so those of other names have no part in it
(`SameSection`), and a section that is refused is refused as a whole.
-/
import Kickstart.Settings.Section

namespace Kickstart.Settings

set_option autoImplicit false

open Json

/-! ## The grammar -/

/-- A switch among the members of an object: as it is given, or as usual where it is not. -/
inductive Switch (members : List (String × Json)) (name : String) (usual : Bool) : Bool → Prop
  | given {b : Bool} (found : members.lookup name = some (.bool b)) : Switch members name usual b
  | absent (missing : members.lookup name = none) : Switch members name usual usual

/-- What can stand for `linting`, and the settings it gives. -/
inductive LintingValue : Json → Settings → Prop
  | object {members : List (String × Json)} {save change : Bool}
      (saves : Switch members "lintOnSave" true save)
      (changes : Switch members "lintOnChange" false change) :
      LintingValue (.object members) ⟨save, change⟩
  | nothing : LintingValue (.array []) ⟨true, false⟩
  | one (save : Bool) : LintingValue (.array [.bool save]) ⟨save, false⟩
  | both (save change : Bool) : LintingValue (.array [.bool save, .bool change]) ⟨save, change⟩

/-- What can be a section, and the settings it gives. -/
inductive SectionValue : Json → Settings → Prop
  | null : SectionValue .null ⟨true, false⟩
  | bare {members : List (String × Json)} (missing : members.lookup "linting" = none) :
      SectionValue (.object members) ⟨true, false⟩
  | object {members : List (String × Json)} {j : Json} {s : Settings}
      (found : members.lookup "linting" = some j) (linting : LintingValue j s) :
      SectionValue (.object members) s
  | nothing : SectionValue (.array []) ⟨true, false⟩
  | one {j : Json} {s : Settings} (linting : LintingValue j s) : SectionValue (.array [j]) s

/-! ## What is wrong with other values -/

/-- A switch that is given and is no boolean. -/
structure Offends (members : List (String × Json)) (name : String) (value : Json) : Prop where
  counts : name = "lintOnSave" ∨ name = "lintOnChange"
  found : members.lookup name = some value
  wrong : ∀ b, value ≠ .bool b

/-- What is told about a value that cannot stand for `linting`. -/
inductive LintingFault : Json → Mismatch → Prop
  | member {members : List (String × Json)} {name : String} {value : Json}
      (offends : Offends members name value)
      (first : ∀ other found, Offends members other found → ¬ other < name) :
      LintingFault (.object members) (.wrongType value "a boolean")
  | first {value : Json} (wrong : ∀ b, value ≠ .bool b) (rest : List Json) :
      LintingFault (.array (value :: rest)) (.wrongType value "a boolean")
  | second (save : Bool) {value : Json} (wrong : ∀ b, value ≠ .bool b) (rest : List Json) :
      LintingFault (.array (.bool save :: value :: rest)) (.wrongType value "a boolean")
  | tooLong (save change : Bool) {rest : List Json} (more : rest ≠ []) :
      LintingFault (.array (.bool save :: .bool change :: rest)) (.tooLong (rest.length + 2) 2)
  | other {j : Json} (no_object : ∀ members, j ≠ .object members)
      (no_array : ∀ items, j ≠ .array items) :
      LintingFault j (.wrongType j "struct LintingSettings")

/-- What is told about a value that is no section. -/
inductive SectionFault : Json → Mismatch → Prop
  | member {members : List (String × Json)} {j : Json} {e : Mismatch}
      (found : members.lookup "linting" = some j) (fault : LintingFault j e) :
      SectionFault (.object members) e
  | first {j : Json} {e : Mismatch} (fault : LintingFault j e) (rest : List Json) :
      SectionFault (.array (j :: rest)) e
  | tooLong {j : Json} {s : Settings} (linting : LintingValue j s) {rest : List Json}
      (more : rest ≠ []) : SectionFault (.array (j :: rest)) (.tooLong (rest.length + 1) 1)
  | other {j : Json} (no_null : j ≠ .null) (no_object : ∀ members, j ≠ .object members)
      (no_array : ∀ items, j ≠ .array items) :
      SectionFault j (.wrongType j "struct ServerSettings")

/-! ## One step of reading -/

theorem bind_eq_ok_iff {α β : Type} {x : Except Mismatch α} {f : α → Except Mismatch β} {y : β} :
    x.bind f = .ok y ↔ ∃ a, x = .ok a ∧ f a = .ok y := by
  cases x <;> simp [Except.bind]

theorem bind_eq_error_iff {α β : Type} {x : Except Mismatch α} {f : α → Except Mismatch β}
    {e : Mismatch} : x.bind f = .error e ↔ x = .error e ∨ ∃ a, x = .ok a ∧ f a = .error e := by
  cases x <;> simp [Except.bind]

/-- The member of that name as it is read, or what is usual where there is none. -/
def memberOr {α : Type} (members : List (String × Json)) (name : String)
    (read : Json → Except Mismatch α) (usual : α) : Except Mismatch α :=
  match members.lookup name with
  | none => .ok usual
  | some j => read j

theorem memberOr_eq_ok_iff {α : Type} {members : List (String × Json)} {name : String}
    {read : Json → Except Mismatch α} {usual a : α} :
    memberOr members name read usual = .ok a ↔
      (members.lookup name = none ∧ a = usual) ∨
        ∃ j, members.lookup name = some j ∧ read j = .ok a := by
  rw [memberOr]
  cases members.lookup name <;> simp [eq_comm]

theorem memberOr_eq_error_iff {α : Type} {members : List (String × Json)} {name : String}
    {read : Json → Except Mismatch α} {usual : α} {e : Mismatch} :
    memberOr members name read usual = .error e ↔
      ∃ j, members.lookup name = some j ∧ read j = .error e := by
  rw [memberOr]
  cases members.lookup name <;> simp

/-- A field that an object may leave out is read, or keeps the value that it has. -/
theorem fillFromMembers_of {σ α : Type} (members : List (String × Json)) (name : String)
    (presence : Presence) (read : Json → Except Mismatch α) (store : σ → α → σ) (usual : α)
    {r : σ} (kept : store r usual = r) (rest : List (RecordField σ)) :
    fillFromMembers members (.of name presence read store :: rest) r =
      (memberOr members name read usual).bind fun a =>
        fillFromMembers members rest (store r a) := by
  simp only [fillFromMembers, RecordField.of, memberOr]
  cases members.lookup name with
  | none => simp [Except.bind, kept]
  | some j =>
      dsimp only
      cases read j <;> rfl

/-- A field for which an array has an item is read from it. -/
theorem fillFromItems_of {σ α : Type} (record : String) (count total index : Nat) (name : String)
    (presence : Presence) (read : Json → Except Mismatch α) (store : σ → α → σ)
    (rest : List (RecordField σ)) (j : Json) (items : List Json) (r : σ) :
    fillFromItems record count total index (.of name presence read store :: rest) (j :: items) r =
      (read j).bind fun a =>
        fillFromItems record count total (index + 1) rest items (store r a) := by
  simp only [fillFromItems, RecordField.of]
  cases read j <;> rfl

/-- An object from which nothing can be missing is read member by member. -/
theorem fillFromObject_of_complete {σ : Type} {members : List (String × Json)}
    {fields : List (RecordField σ)} (complete : missing? members fields = none) (r : σ) :
    fillFromObject members fields r = fillFromMembers members (byName fields) r := by
  rw [fillFromObject, complete]
  cases fillFromMembers members (byName fields) r <;> rfl

/-- Items left over after the last field are too many. -/
theorem fillFromItems_nil {σ : Type} (record : String) (count total index : Nat)
    (items : List Json) (r : σ) :
    fillFromItems record count total index [] items r =
      if items = [] then .ok r else .error (.tooLong total count) := by
  cases items <;> rfl

/-! ## Reading the switches -/

theorem readBool_eq_ok_iff {j : Json} {b : Bool} : readBool j = .ok b ↔ j = .bool b := by
  cases j <;> simp [readBool]

theorem readBool_eq_error_iff {j : Json} {e : Mismatch} :
    readBool j = .error e ↔ (∀ b, j ≠ .bool b) ∧ e = .wrongType j "a boolean" := by
  cases j <;> simp [readBool, eq_comm]

theorem switch_eq_ok_iff {members : List (String × Json)} {name : String} {usual b : Bool} :
    memberOr members name readBool usual = .ok b ↔ Switch members name usual b := by
  rw [memberOr_eq_ok_iff]
  constructor
  · rintro (⟨missing, rfl⟩ | ⟨j, found, read⟩)
    · exact .absent missing
    · exact .given (found.trans (congrArg some (readBool_eq_ok_iff.mp read)))
  · rintro (found | missing)
    · exact .inr ⟨.bool b, found, rfl⟩
    · exact .inl ⟨missing, rfl⟩

theorem switch_eq_error_iff {members : List (String × Json)} {name : String} {usual : Bool}
    {e : Mismatch} (counts : name = "lintOnSave" ∨ name = "lintOnChange") :
    memberOr members name readBool usual = .error e ↔
      ∃ value, Offends members name value ∧ e = .wrongType value "a boolean" := by
  rw [memberOr_eq_error_iff]
  constructor
  · rintro ⟨j, found, read⟩
    obtain ⟨wrong, same⟩ := readBool_eq_error_iff.mp read
    exact ⟨j, ⟨counts, found, wrong⟩, same⟩
  · rintro ⟨value, offends, same⟩
    exact ⟨value, offends.found, readBool_eq_error_iff.mpr ⟨offends.wrong, same⟩⟩

/-- The switches of an object are read in byte order of their names. -/
theorem readLinting_object (members : List (String × Json)) :
    readLinting (.object members) =
      (memberOr members "lintOnChange" readBool false).bind fun change =>
        (memberOr members "lintOnSave" readBool true).bind fun save => .ok ⟨save, change⟩ := by
  have order : byName lintingFields = lintingFields.reverse := rfl
  have complete : missing? members lintingFields = none := rfl
  rw [readLinting, readRecord, fillFromObject_of_complete complete, order]
  rw [lintingFields, List.reverse_cons, List.reverse_singleton, List.singleton_append]
  rw [fillFromMembers_of members "lintOnChange" .defaulted readBool _ false rfl]
  congr 1
  funext change
  rw [fillFromMembers_of members "lintOnSave" .defaulted readBool _ true rfl]
  rfl

/-- The switches of an array are read in declared order, and counted when both are right. -/
theorem readLinting_pair (first second : Json) (rest : List Json) :
    readLinting (.array (first :: second :: rest)) =
      (readBool first).bind fun save => (readBool second).bind fun change =>
        if rest = [] then .ok ⟨save, change⟩ else .error (.tooLong (rest.length + 2) 2) := by
  simp only [readLinting, readRecord, lintingFields, fillFromItems_of, fillFromItems_nil]
  rfl

theorem readLinting_single (first : Json) :
    readLinting (.array [first]) = (readBool first).bind fun save => .ok ⟨save, false⟩ := by
  simp only [readLinting, readRecord, lintingFields, fillFromItems_of]
  rfl

/-- What stands for `linting` is read exactly if it can. -/
theorem readLinting_eq_ok_iff {j : Json} {s : Settings} :
    readLinting j = .ok s ↔ LintingValue j s := by
  constructor
  · intro read
    match j with
    | .object members =>
        rw [readLinting_object] at read
        obtain ⟨change, changes, read⟩ := bind_eq_ok_iff.mp read
        obtain ⟨save, saves, read⟩ := bind_eq_ok_iff.mp read
        obtain rfl := Except.ok.inj read
        exact .object (switch_eq_ok_iff.mp saves) (switch_eq_ok_iff.mp changes)
    | .array [] =>
        obtain rfl := Except.ok.inj read
        exact .nothing
    | .array [first] =>
        rw [readLinting_single] at read
        obtain ⟨save, saves, read⟩ := bind_eq_ok_iff.mp read
        obtain rfl := readBool_eq_ok_iff.mp saves
        obtain rfl := Except.ok.inj read
        exact .one save
    | .array (first :: second :: rest) =>
        rw [readLinting_pair] at read
        obtain ⟨save, saves, read⟩ := bind_eq_ok_iff.mp read
        obtain ⟨change, changes, read⟩ := bind_eq_ok_iff.mp read
        obtain rfl := readBool_eq_ok_iff.mp saves
        obtain rfl := readBool_eq_ok_iff.mp changes
        split at read
        · next none =>
          subst none
          obtain rfl := Except.ok.inj read
          exact .both save change
        · cases read
    | .null | .bool _ | .integer _ | .decimal _ | .string _ => cases read
  · rintro (⟨saves, changes⟩ | _ | _ | _)
    · rw [readLinting_object, switch_eq_ok_iff.mpr changes, switch_eq_ok_iff.mpr saves]
      rfl
    · rfl
    · rfl
    · rfl

/-- No switch comes before `lintOnChange`, and only that one before `lintOnSave`. -/
theorem Offends.not_lt_lintOnChange {members : List (String × Json)} {name : String}
    {value : Json} (offends : Offends members name value) : ¬ name < "lintOnChange" := by
  obtain rfl | rfl := offends.counts <;> decide

theorem Offends.eq_lintOnChange {members : List (String × Json)} {name : String}
    {value : Json} (offends : Offends members name value) (earlier : name < "lintOnSave") :
    name = "lintOnChange" := by
  obtain rfl | same := offends.counts
  · exact absurd earlier (by decide)
  · exact same

/-- Of several switches that are no booleans, the one whose name comes first is told. -/
theorem readLinting_object_eq_error_iff {members : List (String × Json)} {e : Mismatch} :
    readLinting (.object members) = .error e ↔ LintingFault (.object members) e := by
  rw [readLinting_object, bind_eq_error_iff]
  constructor
  · rintro (failed | ⟨change, changes, rest⟩)
    · obtain ⟨value, offends, rfl⟩ := (switch_eq_error_iff (.inr rfl)).mp failed
      exact .member offends fun _ _ other => other.not_lt_lintOnChange
    · obtain failed | ⟨save, -, read⟩ := bind_eq_error_iff.mp rest
      · obtain ⟨value, offends, rfl⟩ := (switch_eq_error_iff (.inl rfl)).mp failed
        refine .member offends fun name found other earlier => ?_
        obtain rfl := other.eq_lintOnChange earlier
        rw [(switch_eq_error_iff (.inr rfl)).mpr ⟨found, other, rfl⟩] at changes
        cases changes
      · cases read
  · rintro (@⟨_, name, value, offends, first⟩ | _ | _ | _ | ⟨no_object, -⟩)
    · obtain rfl | rfl := offends.counts
      · right
        -- were the other switch wrong too, it would be told in place of this one
        cases changes : memberOr members "lintOnChange" readBool false with
        | ok change =>
            have failed : memberOr members "lintOnSave" readBool true =
                .error (.wrongType value "a boolean") :=
              (switch_eq_error_iff (.inl rfl)).mpr ⟨value, offends, rfl⟩
            exact ⟨change, rfl, bind_eq_error_iff.mpr (.inl failed)⟩
        | error =>
            obtain ⟨found, other, -⟩ := (switch_eq_error_iff (.inr rfl)).mp changes
            exact absurd (by decide) (first "lintOnChange" found other)
      · left
        exact (switch_eq_error_iff (.inr rfl)).mpr ⟨value, offends, rfl⟩
    · exact absurd rfl (no_object members)

/-- Of the items of an array, the first that is no boolean is told. -/
theorem readLinting_array_eq_error_iff {items : List Json} {e : Mismatch} :
    readLinting (.array items) = .error e ↔ LintingFault (.array items) e := by
  constructor
  · intro refused
    match items with
    | [] => cases refused
    | [first] =>
        rw [readLinting_single] at refused
        obtain failed | ⟨save, -, read⟩ := bind_eq_error_iff.mp refused
        · obtain ⟨wrong, same⟩ := readBool_eq_error_iff.mp failed
          exact same ▸ .first wrong []
        · cases read
    | first :: second :: rest =>
        rw [readLinting_pair] at refused
        obtain failed | ⟨save, saves, later⟩ := bind_eq_error_iff.mp refused
        · obtain ⟨wrong, same⟩ := readBool_eq_error_iff.mp failed
          exact same ▸ .first wrong (second :: rest)
        · obtain rfl := readBool_eq_ok_iff.mp saves
          obtain failed | ⟨change, changes, last⟩ := bind_eq_error_iff.mp later
          · obtain ⟨wrong, same⟩ := readBool_eq_error_iff.mp failed
            exact same ▸ .second save wrong rest
          · obtain rfl := readBool_eq_ok_iff.mp changes
            split at last
            · cases last
            · next more =>
              obtain rfl := Except.error.inj last
              exact .tooLong save change more
  · rintro (_ | @⟨value, wrong, rest⟩ | @⟨save, value, wrong, rest⟩ | @⟨save, change, rest, more⟩ |
      ⟨-, no_array⟩)
    · have failed := readBool_eq_error_iff.mpr ⟨wrong, rfl⟩
      cases rest with
      | nil => rw [readLinting_single, failed]; rfl
      | cons => rw [readLinting_pair, failed]; rfl
    · rw [readLinting_pair, readBool_eq_error_iff.mpr ⟨wrong, rfl⟩]
      rfl
    · rw [readLinting_pair]
      exact if_neg more
    · exact absurd rfl (no_array items)

/-- Anything else is refused, for the first thing that is wrong with it. -/
theorem readLinting_eq_error_iff {j : Json} {e : Mismatch} :
    readLinting j = .error e ↔ LintingFault j e := by
  match j with
  | .object members => exact readLinting_object_eq_error_iff
  | .array items => exact readLinting_array_eq_error_iff
  | .null | .bool _ | .integer _ | .decimal _ | .string _ =>
      constructor
      · intro refused
        obtain rfl := Except.error.inj refused
        exact .other nofun nofun
      · rintro (_ | _ | _ | _ | _)
        rfl

/-! ## Reading sections -/

theorem ofSection_object (members : List (String × Json)) :
    ofSection (some (.object members)) = memberOr members "linting" readLinting default := by
  have complete : missing? members sectionFields = none := rfl
  have order : byName sectionFields = sectionFields := rfl
  rw [ofSection, readRecord, fillFromObject_of_complete complete, order, sectionFields]
  · rw [fillFromMembers_of members "linting" .defaulted readLinting _ default rfl]
    cases memberOr members "linting" readLinting default <;> rfl
  · nofun

theorem ofSection_array (j : Json) (rest : List Json) :
    ofSection (some (.array (j :: rest))) =
      (readLinting j).bind fun s =>
        if rest = [] then .ok s else .error (.tooLong (rest.length + 1) 1) := by
  rw [ofSection, readRecord, sectionFields, fillFromItems_of]
  · simp only [fillFromItems_nil]
    rfl
  · nofun

theorem ofSection_eq_ok_iff {v : Json} {s : Settings} :
    ofSection (some v) = .ok s ↔ SectionValue v s := by
  constructor
  · intro read
    match v with
    | .null =>
        obtain rfl := Except.ok.inj read
        exact .null
    | .object members =>
        rw [ofSection_object] at read
        obtain ⟨missing, rfl⟩ | ⟨j, found, linting⟩ := memberOr_eq_ok_iff.mp read
        · exact .bare missing
        · exact .object found (readLinting_eq_ok_iff.mp linting)
    | .array [] =>
        obtain rfl := Except.ok.inj read
        exact .nothing
    | .array (j :: rest) =>
        rw [ofSection_array] at read
        obtain ⟨s, linting, last⟩ := bind_eq_ok_iff.mp read
        split at last
        · next none =>
          subst none
          obtain rfl := Except.ok.inj last
          exact .one (readLinting_eq_ok_iff.mp linting)
        · cases last
    | .bool _ | .integer _ | .decimal _ | .string _ => cases read
  · rintro (_ | missing | ⟨found, linting⟩ | _ | linting)
    · rfl
    · rw [ofSection_object]
      exact memberOr_eq_ok_iff.mpr (.inl ⟨missing, rfl⟩)
    · rw [ofSection_object]
      exact memberOr_eq_ok_iff.mpr (.inr ⟨_, found, readLinting_eq_ok_iff.mpr linting⟩)
    · rfl
    · rw [ofSection_array, readLinting_eq_ok_iff.mpr linting]
      rfl

theorem ofSection_eq_error_iff {v : Json} {e : Mismatch} :
    ofSection (some v) = .error e ↔ SectionFault v e := by
  constructor
  · intro refused
    match v with
    | .null => cases refused
    | .object members =>
        rw [ofSection_object] at refused
        obtain ⟨j, found, linting⟩ := memberOr_eq_error_iff.mp refused
        exact .member found (readLinting_eq_error_iff.mp linting)
    | .array [] => cases refused
    | .array (j :: rest) =>
        rw [ofSection_array] at refused
        obtain failed | ⟨s, linting, later⟩ := bind_eq_error_iff.mp refused
        · exact .first (readLinting_eq_error_iff.mp failed) rest
        · split at later
          · cases later
          · next more =>
            obtain rfl := Except.error.inj later
            exact .tooLong (readLinting_eq_ok_iff.mp linting) more
    | .bool _ | .integer _ | .decimal _ | .string _ =>
        obtain rfl := Except.error.inj refused
        exact .other nofun nofun nofun
  · rintro (⟨found, fault⟩ | ⟨fault, rest⟩ | ⟨linting, more⟩ | ⟨no_null, no_object, no_array⟩)
    · rw [ofSection_object]
      exact memberOr_eq_error_iff.mpr ⟨_, found, readLinting_eq_error_iff.mpr fault⟩
    · rw [ofSection_array, readLinting_eq_error_iff.mpr fault]
      rfl
    · rw [ofSection_array, readLinting_eq_ok_iff.mpr linting]
      exact if_neg more
    · match v with
      | .null => exact absurd rfl no_null
      | .object members => exact absurd rfl (no_object members)
      | .array items => exact absurd rfl (no_array items)
      | .bool _ | .integer _ | .decimal _ | .string _ => rfl

/-! ## What has no part in it -/

/-- Values for `linting` that differ at most in members that are no switches. -/
inductive SameLinting : Json → Json → Prop
  | same (j : Json) : SameLinting j j
  | members {these those : List (String × Json)}
      (saves : these.lookup "lintOnSave" = those.lookup "lintOnSave")
      (changes : these.lookup "lintOnChange" = those.lookup "lintOnChange") :
      SameLinting (.object these) (.object those)

/-- Sections that differ at most in members that have no meaning. -/
inductive SameSection : Json → Json → Prop
  | same (v : Json) : SameSection v v
  | bare {these those : List (String × Json)} (here : these.lookup "linting" = none)
      (there : those.lookup "linting" = none) : SameSection (.object these) (.object those)
  | members {these those : List (String × Json)} {j k : Json}
      (here : these.lookup "linting" = some j) (there : those.lookup "linting" = some k)
      (linting : SameLinting j k) : SameSection (.object these) (.object those)
  | items {j k : Json} (linting : SameLinting j k) (rest : List Json) :
      SameSection (.array (j :: rest)) (.array (k :: rest))

theorem SameLinting.readLinting_eq {j k : Json} (linting : SameLinting j k) :
    readLinting j = readLinting k := by
  cases linting with
  | same => rfl
  | members saves changes => simp only [readLinting_object, memberOr, saves, changes]

theorem SameSection.ofSection_eq {v w : Json} (same : SameSection v w) :
    ofSection (some v) = ofSection (some w) := by
  cases same with
  | same => rfl
  | bare here there => simp only [ofSection_object, memberOr, here, there]
  | members here there linting =>
      simp only [ofSection_object, memberOr, here, there, linting.readLinting_eq]
  | items linting rest => simp only [ofSection_array, linting.readLinting_eq]

/-! ## All or nothing -/

theorem ofSectionLossy_of_ok {section? : Option Json} {s : Settings}
    (read : ofSection section? = .ok s) : ofSectionLossy section? = (s, []) := by
  rw [ofSectionLossy, read]

theorem ofSectionLossy_of_error {section? : Option Json} {e : Mismatch}
    (refused : ofSection section? = .error e) :
    ofSectionLossy section? = (default, [.malformedSettings e]) := by
  rw [ofSectionLossy, refused]

/-- **A section is read exactly if it keeps to the grammar, from the members that have a meaning
alone; any other is told by what is wrong with it first, and the defaults stand in its place.** -/
theorem section_all_or_nothing (v : Json) :
    (∀ s, ofSection (some v) = .ok s ↔ SectionValue v s) ∧
    (∀ e, ofSection (some v) = .error e ↔ SectionFault v e) ∧
    (∀ w, SameSection v w → ofSection (some v) = ofSection (some w)) ∧
    (∀ s, ofSection (some v) = .ok s → ofSectionLossy (some v) = (s, [])) ∧
    (∀ e, ofSection (some v) = .error e →
      ofSectionLossy (some v) = (⟨true, false⟩, [.malformedSettings e])) := by
  refine ⟨fun s => ofSection_eq_ok_iff, fun e => ofSection_eq_error_iff, ?_, ?_, ?_⟩
  · intro w same
    exact same.ofSection_eq
  · intro s read
    exact ofSectionLossy_of_ok read
  · intro e refused
    exact ofSectionLossy_of_error refused

/-- Two wrong switches, of which the first by name is told whatever other members there are, and
an item too many, for which the defaults come in place of the switches before it. -/
theorem section_all_or_nothing_two_wrong :
    let linting : Json := .object [("lintOnChange", .string "no"), ("lintOnSave", .integer 1)]
    let wide : Json := .object [("linting", linting), ("theme", .string "dark")]
    let long : Json := .array [.array [.bool false, .bool true], .null]
    SectionFault wide (.wrongType (.string "no") "a boolean") ∧
      SameSection wide (.object [("linting", linting)]) ∧
      ofSection (some wide) = ofSection (some (.object [("linting", linting)])) ∧
      SectionFault long (.tooLong 2 1) ∧
      ofSectionLossy (some long) = (⟨true, false⟩, [.malformedSettings (.tooLong 2 1)]) ∧
      ofSectionLossy (some (.array [.array [.bool false]])) = (⟨false, false⟩, []) := by
  intro linting wide long
  have same : SameSection wide (.object [("linting", linting)]) := .members rfl rfl (.same linting)
  refine ⟨?_, same, ?_, ?_, ?_, ?_⟩
  · exact ((section_all_or_nothing wide).2.1 _).mp rfl
  · exact (section_all_or_nothing wide).2.2.1 _ same
  · exact ((section_all_or_nothing long).2.1 _).mp rfl
  · exact (section_all_or_nothing long).2.2.2.2 _ rfl
  · exact (section_all_or_nothing _).2.2.2.1 _ rfl

end Kickstart.Settings
