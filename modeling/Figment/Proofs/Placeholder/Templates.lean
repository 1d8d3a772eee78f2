import Figment.Placeholder
import Figment.Proofs.Evaluation.Shallow
import Figment.Proofs.Random.Outcomes
/-!
The placeholder generators are one algorithm.

Numbers, letters and templates of one's own are all made by replacing each character by what is drawn
from the options that it has. The generators choose digits and letters by arithmetic and options from
lists, and still read the same words and give the same texts. Only an empty list of options can make
the replacement fail, at the first character that needs it.
-/

namespace Figment

namespace Draw

variable {α β : Type} {d : Draw α}

/-- Functions that agree on what can be drawn give the same draw. -/
theorem map_congr_of_always {P : α → Prop} {f g : α → β} (h : d.Always P)
    (same : ∀ a, P a → f a = g a) : f <$> d = g <$> d := by
  funext s
  exact Prod.ext (same _ (h s)) rfl

end Draw

namespace Placeholder

/-- The characters of a text, each as an option. -/
def singles (s : String) : List String :=
  s.toList.map String.singleton

def digits : List String :=
  singles "0123456789"

/-- The letters of one case. -/
def letters (upper : Bool) : List String :=
  singles (if upper then "ABCDEFGHIJKLMNOPQRSTUVWXYZ" else "abcdefghijklmnopqrstuvwxyz")

/-- Options for one character. -/
def only (placeholder : Char) (options : List String) (c : Char) : Option (List String) :=
  if c = placeholder then some options else none

/-- Digits for the number sign, and letters of one case for the question mark. -/
def digitsAndLetters (upper : Bool) (c : Char) : Option (List String) :=
  if c = '#' then some digits else if c = '?' then some (letters upper) else none

/-- What stands in place of a character: one of its options, if it has any. -/
def replacement (options : Char → Option (List String)) (c : Char) : Draw (List Char) :=
  match options c with
  | none => pure [c]
  | some texts => String.toList <$> option texts.toArray

/-- The text with every character replaced. -/
def replaced (options : Char → Option (List String)) (template : List Char) : Draw (List Char) :=
  List.flatten <$> template.mapM (replacement options)

variable {options : Char → Option (List String)} {template : List Char}

/-- Choosing from consecutive characters is counting on from the first of them. -/
theorem option_singles (s : String) (first : Char) (few : s.toList.length < 2 ^ 32)
    (ne : s.toList ≠ [])
    (consecutive : ∀ i (h : i < s.toList.length), s.toList[i] = Char.ofNat (first.toNat + i)) :
    String.toList <$> option (singles s).toArray =
      (fun i => [Char.ofNat (first.toNat + i)]) <$> Draw.uniform 1 s.toList.length := by
  have size : (singles s).toArray.size = s.toList.length := by simp [singles]
  have width : Draw.below s.toList.length = Draw.uniform 1 s.toList.length := by
    rw [Draw.below, Nat.div_eq_of_lt ((Nat.log2_lt (by simpa using ne)).2 few)]
  have chosen : option (singles s).toArray =
      (fun i => ((singles s)[i]?).getD "") <$> Draw.uniform 1 s.toList.length := by
    rw [option, Draw.member?, if_neg (by simpa [singles] using ne), size, width]
    simp
  rw [chosen, ← comp_map]
  refine Draw.map_congr_of_always (Draw.always_uniform (List.length_pos_iff.2 ne)) fun i hi => ?_
  have there : (singles s)[i]? = some (String.singleton s.toList[i]) := by
    rw [singles, List.getElem?_map, List.getElem?_eq_getElem hi]
    rfl
  simp [there, consecutive i hi]

theorem option_digits : String.toList <$> option digits.toArray = ([·]) <$> digit := by
  have drawn := option_singles "0123456789" '0' (by decide) (by decide) (by decide)
  simpa [digit, digits] using drawn

theorem option_letters (upper : Bool) :
    String.toList <$> option (letters upper).toArray = ([·]) <$> letter (some upper) := by
  cases upper with
  | false =>
    have drawn := option_singles "abcdefghijklmnopqrstuvwxyz" 'a'
      (by decide) (by decide) (by decide)
    simpa [letter, lowercase, letters] using drawn
  | true =>
    have drawn := option_singles "ABCDEFGHIJKLMNOPQRSTUVWXYZ" 'A'
      (by decide) (by decide) (by decide)
    simpa [letter, uppercase, letters] using drawn

/-- A draw of one character in place of each is a replacement. -/
theorem replaced_eq_mapM {f : Char → Draw Char} (h : ∀ c, replacement options c = ([·]) <$> f c)
    (template : List Char) : replaced options template = template.mapM f := by
  rw [replaced, funext h, mapM_map, ← comp_map]
  have single : List.flatten ∘ List.map ([·]) = (id : List Char → List Char) := by
    funext cs
    simp [← List.flatMap_def]
  rw [single, id_map]

theorem numerify_eq_replaced (template : List Char) :
    numerify template = replaced (only '#' digits) template := by
  refine (replaced_eq_mapM (fun c => ?_) template).symm
  rw [replacement, only]
  split_ifs
  · exact option_digits
  · simp

theorem letterify_eq_replaced (upper : Bool) (template : List Char) :
    letterify (some upper) template = replaced (only '?' (letters upper)) template := by
  refine (replaced_eq_mapM (fun c => ?_) template).symm
  rw [replacement, only]
  split_ifs
  · exact option_letters upper
  · simp

theorem bothify_eq_replaced (upper : Bool) (template : List Char) :
    bothify (some upper) template = replaced (digitsAndLetters upper) template := by
  refine (replaced_eq_mapM (fun c => ?_) template).symm
  rw [replacement, digitsAndLetters]
  split_ifs
  · exact option_digits
  · exact option_letters upper
  · simp

theorem templatify_eq_replaced (placeholder : Char) (text : String) (texts : List String)
    (template : List Char) :
    templatify placeholder (text :: texts) template =
      ExceptT.lift (replaced (only placeholder (text :: texts)) template) := by
  have each (c : Char) : (if c = placeholder then
        String.toList <$> option (text :: texts).toArray else pure [c]) =
      replacement (only placeholder (text :: texts)) c := by
    rw [replacement, only]
    split_ifs <;> rfl
  rw [templatify, if_neg (List.cons_ne_nil text texts), replaced, ← funext each]
  rfl

/-- The replacement of one character, which an empty list of options refuses. -/
def checked (options : Char → Option (List String)) (c : Char) : ExceptT Failure Draw (List Char) :=
  if options c = some [] then throw (.noOptions c) else ExceptT.lift (replacement options c)

theorem templatifyEach_eq (options : Char → Option (List String)) (template : List Char) :
    templatifyEach options template = List.flatten <$> template.mapM (checked options) := by
  rw [templatifyEach]
  congr 2
  funext c
  rw [checked, replacement]
  rcases options c with _ | (_ | ⟨text, texts⟩)
  · rfl
  · rfl
  · rfl

theorem mapM_checked_of_usable (h : ∀ c ∈ template, options c ≠ some []) :
    template.mapM (checked options) = ExceptT.lift (template.mapM (replacement options)) := by
  induction template with
  | nil => rfl
  | cons c rest ih =>
    obtain ⟨here, later⟩ := List.forall_mem_cons.1 h
    rw [List.mapM_cons, List.mapM_cons, ih later, checked, if_neg here]
    rfl

/-- Where every option list that is needed holds something, nothing is refused. -/
theorem templatifyEach_of_usable (h : ∀ c ∈ template, options c ≠ some []) :
    templatifyEach options template = ExceptT.lift (replaced options template) := by
  rw [templatifyEach_eq, mapM_checked_of_usable h]
  rfl

theorem mapM_checked_of_find? {c : Char} (h : template.find? (options · = some []) = some c)
    (s : Source) : ∃ after, template.mapM (checked options) s = (.error (.noOptions c), after) := by
  induction template generalizing s with
  | nil => cases h
  | cons d rest ih =>
    rw [List.mapM_cons, checked]
    rw [List.find?_cons] at h
    split at h
    · next empty =>
      cases h
      rw [if_pos (of_decide_eq_true empty)]
      exact ⟨s, bind_of_error rfl⟩
    · next usable =>
      rw [if_neg (of_decide_eq_false usable)]
      obtain ⟨after, later⟩ := ih h (replacement options d s).2
      exact ⟨after, (bind_of_ok rfl).trans (bind_of_error later)⟩

/-- The first character with an empty list is refused, whatever has been drawn for those before it. -/
theorem templatifyEach_of_find? {c : Char} (h : template.find? (options · = some []) = some c)
    (s : Source) : ∃ after, templatifyEach options template s = (.error (.noOptions c), after) := by
  obtain ⟨after, refused⟩ := mapM_checked_of_find? h s
  rw [templatifyEach_eq, map_eq_pure_bind]
  exact ⟨after, bind_of_error refused⟩

theorem templatifyEach_eq_error_iff {s : Source} {e : Failure} :
    ((templatifyEach options template).run s).1 = .error e ↔
      ∃ c, template.find? (options · = some []) = some c ∧ e = .noOptions c := by
  cases first : template.find? (options · = some []) with
  | some c =>
    obtain ⟨after, refused⟩ := templatifyEach_of_find? first s
    have failed : ((templatifyEach options template).run s).1 = .error (.noOptions c) :=
      congrArg Prod.fst refused
    rw [failed]
    simp [eq_comm]
  | none =>
    have usable : ∀ c ∈ template, options c ≠ some [] := by simpa using first
    rw [templatifyEach_of_usable usable]
    exact ⟨nofun, nofun⟩

theorem templatifyEach_fails_iff {s : Source} :
    (∃ e, ((templatifyEach options template).run s).1 = .error e) ↔
      ∃ c ∈ template, options c = some [] := by
  constructor
  · rintro ⟨e, failed⟩
    obtain ⟨c, first, -⟩ := templatifyEach_eq_error_iff.1 failed
    have empty := List.find?_some first
    exact ⟨c, List.mem_of_find?_eq_some first, of_decide_eq_true empty⟩
  · rintro ⟨c, mem, empty⟩
    have found : (template.find? (options · = some [])).isSome :=
      List.find?_isSome.2 ⟨c, mem, decide_eq_true empty⟩
    obtain ⟨d, first⟩ := Option.isSome_iff_exists.1 found
    exact ⟨.noOptions d, templatifyEach_eq_error_iff.2 ⟨d, first, rfl⟩⟩

/-- Each of the generators is the replacement of characters by options: with the same source they give
the same text and leave the same source behind. Templates of one's own fail exactly if a character in
them has an empty list of options, and what they report is the first such character. -/
theorem placeholders_agree :
    (∀ template, templatify '#' digits template = ExceptT.lift (numerify template)) ∧
      (∀ upper template,
        templatify '?' (letters upper) template = ExceptT.lift (letterify (some upper) template)) ∧
      (∀ upper template, templatifyEach (digitsAndLetters upper) template =
        ExceptT.lift (bothify (some upper) template)) ∧
      (∀ placeholder text texts template, templatify placeholder (text :: texts) template =
        templatifyEach (only placeholder (text :: texts)) template) ∧
      ∀ options template s,
        ((∃ e, ((templatifyEach options template).run s).1 = .error e) ↔
          ∃ c ∈ template, options c = some []) ∧
        ∀ e, ((templatifyEach options template).run s).1 = .error e ↔
          ∃ c, template.find? (options · = some []) = some c ∧ e = .noOptions c := by
  refine ⟨fun template => ?_, fun upper template => ?_, fun upper template => ?_,
    fun placeholder text texts template => ?_, fun options template s => ⟨?_, fun e => ?_⟩⟩
  · rw [numerify_eq_replaced]
    exact templatify_eq_replaced '#' _ _ template
  · rw [letterify_eq_replaced]
    cases upper <;> exact templatify_eq_replaced '?' _ _ template
  · rw [bothify_eq_replaced]
    refine templatifyEach_of_usable fun c _ => ?_
    rw [digitsAndLetters]
    split_ifs <;> cases upper <;> decide
  · rw [templatify_eq_replaced]
    refine (templatifyEach_of_usable fun c _ => ?_).symm
    rw [only]
    split_ifs <;> simp
  · exact templatifyEach_fails_iff
  · exact templatifyEach_eq_error_iff

end Placeholder

end Figment
