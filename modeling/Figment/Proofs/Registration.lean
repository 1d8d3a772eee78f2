import Figment.Proofs.Unicode.Lowercase
import Figment.Provider
import Mathlib.Data.List.Induction
import Mathlib.Logic.Relation
/-!
Registration under names in any spelling.

A registry is a map from classes of names to what was registered last in each of them. A class holds
the names that differ in their underscores and in capitals; its normal form is one of them, and leads to
what any other one leads to, so that the names which are listed, or suggested, are names to ask for.
-/

namespace Figment

namespace Name

open Unicode (lowerChar)

/-- A change to the spelling of a name: an underscore more, or the lowercase form of a character. -/
inductive Respells : String → String → Prop
  | underscore (before after : List Char) :
    Respells (.ofList (before ++ after)) (.ofList (before ++ '_' :: after))
  | lowercase (before : List Char) (c : Char) (after : List Char) :
    Respells (.ofList (before ++ c :: after)) (.ofList (before ++ (lowerChar c ++ after)))

/-- The names that one gets from a name by such changes and by undoing them. -/
def Respelled : String → String → Prop :=
  Relation.EqvGen Respells

/-- The normal form, character by character. -/
def normalForm (s : List Char) : List Char :=
  (s.filter (· ≠ '_')).flatMap lowerChar

theorem normal_ofList (s : List Char) : normal (.ofList s) = .ofList (normalForm s) := by
  rw [normal, String.toList_ofList, normalForm]

theorem normalForm_append (s t : List Char) : normalForm (s ++ t) = normalForm s ++ normalForm t := by
  rw [normalForm, List.filter_append, List.flatMap_append, normalForm, normalForm]

theorem normalForm_cons (c : Char) (s : List Char) :
    normalForm (c :: s) = (if c = '_' then [] else lowerChar c) ++ normalForm s := by
  by_cases underscore : c = '_'
  · simp [normalForm, underscore]
  · simp [normalForm, underscore]

/-- The lowercase form of a character is in normal form, unless it is an underscore. -/
theorem normalForm_lowerChar (c : Char) :
    normalForm (lowerChar c) = if c = '_' then [] else lowerChar c := by
  by_cases underscore : c = '_'
  · rw [underscore, Unicode.lowerChar_underscore]
    rfl
  · rw [normalForm, Unicode.filter_lowerChar underscore, Unicode.flatMap_lowerChar_lowerChar,
      if_neg underscore]

theorem normalForm_normalForm (s : List Char) : normalForm (normalForm s) = normalForm s := by
  induction s with
  | nil => rfl
  | cons c s ih =>
    rw [normalForm_cons, normalForm_append, ih]
    congr 1
    by_cases underscore : c = '_'
    · rw [if_pos underscore]
      rfl
    · rw [if_neg underscore, normalForm_lowerChar, if_neg underscore]

@[simp] theorem normal_normal (name : String) : normal (normal name) = normal name := by
  change normal (.ofList (normalForm name.toList)) = _
  rw [normal_ofList, normalForm_normalForm]
  rfl

theorem Respells.normal_eq {name other : String} (h : Respells name other) :
    normal name = normal other := by
  cases h with
  | underscore before after =>
    rw [normal_ofList, normal_ofList, normalForm_append, normalForm_append, normalForm_cons]
    rfl
  | lowercase before c after =>
    rw [normal_ofList, normal_ofList, normalForm_append, normalForm_append, normalForm_append,
      normalForm_cons, normalForm_lowerChar]

/-- The characters of a name are brought into normal form one after the other. -/
theorem respelled_normalForm (before s : List Char) :
    Respelled (.ofList (before ++ s)) (.ofList (before ++ normalForm s)) := by
  induction s generalizing before with
  | nil => exact .refl _
  | cons c s ih =>
    rw [normalForm_cons]
    by_cases underscore : c = '_'
    · rw [if_pos underscore, underscore]
      exact .trans _ _ _ (.symm _ _ (.rel _ _ (.underscore before s))) (ih before)
    · rw [if_neg underscore]
      have step : Respelled (.ofList (before ++ c :: s)) (.ofList (before ++ (lowerChar c ++ s))) :=
        .rel _ _ (.lowercase before c s)
      have later := ih (before ++ lowerChar c)
      rw [List.append_assoc, List.append_assoc] at later
      exact step.trans _ _ _ later

theorem respelled_normal (name : String) : Respelled name (normal name) := by
  have whole := respelled_normalForm [] name.toList
  rwa [List.nil_append, List.nil_append, String.ofList_toList] at whole

/-- Two names have one normal form exactly if each is a respelling of the other. -/
theorem normal_eq_iff {name other : String} : normal name = normal other ↔ Respelled name other := by
  constructor
  · intro same
    have there := respelled_normal name
    rw [same] at there
    exact .trans _ _ _ there (.symm _ _ (respelled_normal other))
  · intro h
    induction h with
    | rel name other step => exact step.normal_eq
    | refl name => rfl
    | symm name other _ ih => exact ih.symm
    | trans name between other _ _ ih ih' => exact ih.trans ih'

end Name

namespace Registry

variable {α : Type}

/-- Registers providers one after the other. -/
def registerAll (r : Registry α) (entries : List (String × α)) : Registry α :=
  entries.foldl (fun r e => r.register e.1 e.2) r

/-- What is registered last under a name, in whatever spelling. -/
def last? (entries : List (String × α)) (name : String) : Option α :=
  (entries.reverse.find? fun e => Name.normal e.1 = Name.normal name).map (·.2)

theorem registerAll_concat (r : Registry α) (entries : List (String × α)) (e : String × α) :
    r.registerAll (entries ++ [e]) = (r.registerAll entries).register e.1 e.2 := by
  rw [registerAll, List.foldl_append]
  rfl

theorem last?_concat (entries : List (String × α)) (e : String × α) (name : String) :
    last? (entries ++ [e]) name =
      if Name.normal e.1 = Name.normal name then some e.2 else last? entries name := by
  rw [last?, List.reverse_concat, List.find?_cons]
  by_cases same : Name.normal e.1 = Name.normal name
  · simp [same]
  · simp [same, last?]

theorem isSome_last?_iff {entries : List (String × α)} {name : String} :
    (last? entries name).isSome ↔ ∃ e ∈ entries, Name.normal e.1 = Name.normal name := by
  simp [last?]

/-- A registration under another name changes nothing, and one under the same name counts. -/
theorem get?_registerAll (r : Registry α) (entries : List (String × α)) (name : String) :
    (r.registerAll entries).get? name = (last? entries name).or (r.get? name) := by
  -- The list is taken apart from its end, where the registration stands that counts.
  induction entries using List.reverseRecOn with
  | nil => rfl
  | append_singleton entries e ih =>
    rw [registerAll_concat, last?_concat]
    by_cases same : Name.normal e.1 = Name.normal name
    · rw [get?_register_of_eq _ e.2 same.symm, if_pos same, Option.some_or]
    · rw [get?_register_of_ne _ e.2 (Ne.symm same), if_neg same, ih]

theorem get?_registerAll_of_ne {entries : List (String × α)} {name : String}
    (h : ∀ e ∈ entries, Name.normal e.1 ≠ Name.normal name) (r : Registry α) :
    (r.registerAll entries).get? name = r.get? name := by
  have none : last? entries name = none := by
    apply Option.not_isSome_iff_eq_none.1
    rw [isSome_last?_iff]
    rintro ⟨e, mem, same⟩
    exact h e mem same
  rw [get?_registerAll, none, Option.none_or]

theorem get_of_get? {r : Registry α} {name : String} {p : α} (h : r.get? name = some p) :
    r.get name = .ok p := by
  rw [get, h]

/-- The last registration under a name is the one that counts. -/
theorem get_of_registered {r before : Registry α} {name : String} {p : α}
    {later : List (String × α)} (registered : r = (before.register name p).registerAll later)
    (last : ∀ e ∈ later, Name.normal e.1 ≠ Name.normal name) : r.get name = .ok p := by
  apply get_of_get?
  rw [registered, get?_registerAll_of_ne last]
  exact get?_register_of_eq before p rfl

/-- The registry in which nothing else has been registered. -/
def registered (entries : List (String × α)) : Registry α :=
  empty.registerAll entries

section Registered

variable (entries : List (String × α))

theorem get?_registered (name : String) : (registered entries).get? name = last? entries name := by
  rw [registered, get?_registerAll, get?_empty, Option.or_none]

theorem get_registered (name : String) :
    (registered entries).get name =
      match last? entries name with
      | some p => .ok p
      | none => .error (.unknownProvider name
          (suggest (Name.normal name) (registered entries).names)) := by
  have found := get?_registered entries name
  cases last : last? entries name with
  | some p => exact get_of_get? (found.trans last)
  | none => simp only [get, found, last]

theorem contains_registered_iff {name : String} :
    (registered entries).contains name = true ↔ ∃ e ∈ entries, Name.normal e.1 = Name.normal name := by
  rw [contains, get?_registered, isSome_last?_iff]

theorem ordered_registered : Keyed.Ordered (registered entries).providers := by
  rw [registered]
  induction entries using List.reverseRecOn with
  | nil => exact Keyed.ordered_nil
  | append_singleton entries e ih =>
    rw [registerAll_concat]
    exact ordered_register ih e.1 e.2

/-- What is listed are the normal forms. -/
theorem mem_names_registered_iff {name : String} :
    name ∈ (registered entries).names ↔ ∃ e ∈ entries, Name.normal e.1 = name := by
  rw [registered]
  induction entries using List.reverseRecOn with
  | nil => simp [registerAll, empty, names, Keyed.keys]
  | append_singleton entries e ih =>
    rw [registerAll_concat, register, names, Keyed.mem_keys_put, ← names, ih]
    simp [or_comm, eq_comm]

/-- What is registered under a name is used once, and the world is left alone if there is nothing. -/
theorem make_registered {σ β : Type} (maker : α → StateM σ β) (name : String) (w : σ) :
    (registered entries).make maker name w =
      match last? entries name with
      | some p => (.ok (maker p w).1, (maker p w).2)
      | none => (.error (.unknownProvider name
          (suggest (Name.normal name) (registered entries).names)), w) := by
  have found := get_registered entries name
  cases last : last? entries name with
  | some p =>
    simp only [make, found, last]
    rfl
  | none =>
    simp only [make, found, last]
    rfl

/-- A registry is a map from classes of names: a name leads to what was registered last under any
spelling of it, and the names that are listed ascend, one for each class, and lead to something
themselves. The classes hold the names that are respellings of each other. -/
theorem registry_law :
    (∀ name, (registered entries).contains name = true ↔
      ∃ e ∈ entries, Name.normal e.1 = Name.normal name) ∧
    (∀ name, (registered entries).get name = match last? entries name with
      | some p => .ok p
      | none => .error (.unknownProvider name
          (suggest (Name.normal name) (registered entries).names))) ∧
    (∀ {σ β : Type} (maker : α → StateM σ β) name w,
      (registered entries).make maker name w = match last? entries name with
        | some p => (.ok (maker p w).1, (maker p w).2)
        | none => (.error (.unknownProvider name
            (suggest (Name.normal name) (registered entries).names)), w)) ∧
    (registered entries).names.Pairwise (· < ·) ∧
    (∀ name, name ∈ (registered entries).names ↔ ∃ e ∈ entries, Name.normal e.1 = name) ∧
    (∀ name ∈ (registered entries).names,
      (registered entries).contains name = true ∧ ∃ p, (registered entries).get name = .ok p) ∧
    (∀ name, Name.normal (Name.normal name) = Name.normal name) ∧
    ∀ name other, Name.normal name = Name.normal other ↔ Name.Respelled name other := by
  refine ⟨fun name => contains_registered_iff entries, get_registered entries, make_registered entries,
    ordered_registered entries, fun name => mem_names_registered_iff entries, fun name listed => ?_,
    Name.normal_normal, fun name other => Name.normal_eq_iff⟩
  obtain ⟨e, mem, rfl⟩ := (mem_names_registered_iff entries).1 listed
  have known : ∃ f ∈ entries, Name.normal f.1 = Name.normal (Name.normal e.1) :=
    ⟨e, mem, (Name.normal_normal e.1).symm⟩
  obtain ⟨p, last⟩ := Option.isSome_iff_exists.1 (isSome_last?_iff.2 known)
  refine ⟨(contains_registered_iff entries).2 known, p, ?_⟩
  rw [get_registered, last]

end Registered

end Registry

end Figment
