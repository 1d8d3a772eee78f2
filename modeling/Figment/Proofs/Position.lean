import Figment.Diagnostic
import Mathlib.Data.List.Infix
import Mathlib.Data.List.TakeWhile
/-!
Places of a text.

A place is reached by reading the text in front of it. Reading on leads to a later place, so that no
two rests of a text begin at the same one; and a place leads back to the rest that begins there, by
whole lines and then by characters, or by octets.
-/

namespace Figment

theorem octets_append (s t : List Char) : octets (s ++ t) = octets s + octets t := by
  induction s with
  | nil => exact (Nat.zero_add _).symm
  | cons c s ih => rw [List.cons_append, octets, octets, ih, Nat.add_assoc]

/-- The beginning of a text that takes so many octets. There is none where the number divides a
character, or is larger than that of the whole text. -/
def octetPrefix? : Nat → List Char → Option (List Char)
  | 0, _ => some []
  | _ + 1, [] => none
  | n + 1, c :: rest =>
    if c.utf8Size ≤ n + 1 then (octetPrefix? (n + 1 - c.utf8Size) rest).map (c :: ·) else none

theorem octetPrefix?_append (s t : List Char) : octetPrefix? (octets s) (s ++ t) = some s := by
  induction s with
  | nil => rw [octets, octetPrefix?]
  | cons c s ih =>
    have wide := c.utf8Size_pos
    obtain ⟨n, width⟩ : ∃ n, c.utf8Size + octets s = n + 1 := Nat.exists_eq_add_one.2 (by omega)
    have left : n + 1 - c.utf8Size = octets s := by omega
    rw [octets, width, List.cons_append, octetPrefix?, left, ih, if_pos (by omega)]
    rfl

/-- What ends where a line ends. -/
def EndsLine (s : List Char) : Prop :=
  s = [] ∨ ∃ t, s = t ++ ['\n']

/-- A text is a number of whole lines and the beginning of one more. -/
theorem exists_lines (s : List Char) : ∃ u v, s = u ++ v ∧ EndsLine u ∧ '\n' ∉ v := by
  induction s using List.reverseRecOn with
  | nil => exact ⟨[], [], rfl, .inl rfl, List.not_mem_nil⟩
  | append_singleton s c ih =>
    by_cases feed : c = '\n'
    · exact ⟨s ++ ['\n'], [], by rw [feed, List.append_nil], .inr ⟨s, rfl⟩, List.not_mem_nil⟩
    · obtain ⟨u, v, rfl, whole, inside⟩ := ih
      refine ⟨u, v ++ [c], List.append_assoc u v [c], whole, fun mem => ?_⟩
      rcases List.mem_append.1 mem with mem | mem
      · exact inside mem
      · exact feed (List.mem_singleton.1 mem).symm

theorem flatten_consFirst (c : Char) (parts : List (List Char)) :
    (Delimited.consFirst c parts).flatten = c :: parts.flatten := by
  cases parts with
  | nil => rfl
  | cons part parts => rfl

theorem length_consFirst (c : Char) {parts : List (List Char)} (ne : parts ≠ []) :
    (Delimited.consFirst c parts).length = parts.length := by
  cases parts with
  | nil => exact absurd rfl ne
  | cons part parts => rfl

/-- Nothing of the text is lost. -/
theorem flatten_lines (s : List Char) : (lines s).flatten = s := by
  induction s with
  | nil => rfl
  | cons c s ih =>
    rw [lines]
    split
    · rw [List.flatten_cons, ih, List.singleton_append]
    · rw [flatten_consFirst, ih]

theorem lines_ne_nil {s : List Char} (ne : s ≠ []) : lines s ≠ [] := by
  intro none
  have empty := flatten_lines s
  rw [none, List.flatten_nil] at empty
  exact ne empty.symm

/-- Whole lines have as many line feeds. -/
theorem EndsLine.length_lines {s : List Char} (h : EndsLine s) : (lines s).length = s.count '\n' := by
  rcases h with rfl | ⟨t, rfl⟩
  · rfl
  · induction t with
    | nil => rfl
    | cons c t ih =>
      rw [List.cons_append, lines]
      split
      · next feed => rw [List.length_cons, ih, feed, List.count_cons_self]
      · next feed =>
        have ne : lines (t ++ ['\n']) ≠ [] := lines_ne_nil (List.append_ne_nil_of_right_ne_nil _ nofun)
        rw [length_consFirst c ne, ih, List.count_cons_of_ne feed]

/-- The lines behind whole lines do not depend on them. -/
theorem EndsLine.lines_append {s : List Char} (h : EndsLine s) (rest : List Char) :
    lines (s ++ rest) = lines s ++ lines rest := by
  rcases h with rfl | ⟨t, rfl⟩
  · rfl
  · induction t with
    | nil => rfl
    | cons c t ih =>
      rw [List.cons_append, List.cons_append, lines, lines, ih]
      split
      · rfl
      · have ne : lines (t ++ ['\n']) ≠ [] := lines_ne_nil (List.append_ne_nil_of_right_ne_nil _ nofun)
        exact Delimited.consFirst_append c _ ne

namespace Position

/-- A place comes before another one on an earlier line, or earlier on the same line. -/
def Before (p q : Position) : Prop :=
  p.line < q.line ∨ p.line = q.line ∧ p.column < q.column

theorem Before.trans {p q r : Position} (pq : p.Before q) (qr : q.Before r) : p.Before r := by
  unfold Before at *
  omega

theorem Before.ne {p q : Position} (h : p.Before q) : p ≠ q := by
  rintro rfl
  unfold Before at h
  omega

/-- One more character leads on. -/
theorem before_concat (read : List Char) (c : Char) : (after read).Before (after (read ++ [c])) := by
  by_cases feed : c = '\n'
  · rw [feed, after_concat_lineFeed]
    exact .inl (Nat.lt_succ_self _)
  · rw [after_concat read feed]
    exact .inr ⟨rfl, Nat.lt_succ_self _⟩

theorem before_append (read : List Char) {more : List Char} (ne : more ≠ []) :
    (after read).Before (after (read ++ more)) := by
  induction more using List.reverseRecOn with
  | nil => exact absurd rfl ne
  | append_singleton more c ih =>
    rw [← List.append_assoc]
    have last := before_concat (read ++ more) c
    by_cases empty : more = []
    · rw [empty, List.append_nil] at last ⊢
      exact last
    · exact (ih empty).trans last

theorem of_append (read rest : List Char) : Position.of (read ++ rest) rest = after read := by
  rw [Position.of, List.length_append, Nat.add_sub_cancel, List.take_left]

/-- The shorter one of two rests of a text begins later. -/
theorem of_before_of {text longer shorter : List Char} (hl : longer <:+ text) (hs : shorter <:+ text)
    (less : shorter.length < longer.length) :
    (Position.of text longer).Before (Position.of text shorter) := by
  obtain ⟨more, rfl⟩ := List.suffix_of_suffix_length_le hs hl less.le
  obtain ⟨read, rfl⟩ := hl
  have ne : more ≠ [] := by
    rintro rfl
    exact Nat.lt_irrefl _ less
  have later : Position.of (read ++ (more ++ shorter)) shorter = after (read ++ more) := by
    rw [← List.append_assoc, of_append]
  rw [of_append, later]
  exact before_append read ne

/-- A place determines the rest that begins there. -/
theorem eq_of_of_eq {text s t : List Char} (hs : s <:+ text) (ht : t <:+ text)
    (same : Position.of text s = Position.of text t) : s = t := by
  rcases Nat.lt_trichotomy s.length t.length with less | equal | more
  · exact absurd same.symm (of_before_of ht hs less).ne
  · exact (List.suffix_of_suffix_length_le hs ht equal.le).eq_of_length equal
  · exact absurd same (of_before_of hs ht more).ne

/-- The part that was read may be cut off by octets. -/
theorem of_eq_octetPrefix {text rest : List Char} (h : rest <:+ text) :
    Position.of text rest = after ((octetPrefix? (octets text - octets rest) text).getD text) := by
  obtain ⟨read, rfl⟩ := h
  rw [of_append, octets_append, Nat.add_sub_cancel, octetPrefix?_append, Option.getD_some]

/-- A place leads to a rest of a text: the text has the lines and the characters in front of the place,
and the octets in front of it are those in front of the rest. -/
structure LeadsTo (p : Position) (text rest : List Char) : Prop where
  suffix : rest <:+ text
  place : p = .of text rest
  line : p.line - 1 ≤ (lines text).length
  column : p.column - 1 ≤ (p.fromLine text).length
  /-- The characters in front of the place are on its line. -/
  sameLine : '\n' ∉ (p.fromLine text).take (p.column - 1)
  offset : p.offset text + octets rest = octets text

theorem after_lines {u v : List Char} (whole : EndsLine u) (inside : '\n' ∉ v) :
    after (u ++ v) = ⟨(lines u).length + 1, v.length + 1⟩ := by
  have all : ∀ c ∈ v.reverse, decide (c ≠ '\n') = true := by
    intro c mem
    refine decide_eq_true fun feed => inside ?_
    rwa [feed, List.mem_reverse] at mem
  have front : u.reverse.takeWhile (fun c => decide (c ≠ '\n')) = [] := by
    rcases whole with rfl | ⟨t, rfl⟩
    · rfl
    · rw [List.reverse_concat, List.takeWhile_cons_of_neg (by decide)]
  rw [after, List.count_append, List.count_eq_zero_of_not_mem inside, whole.length_lines,
    List.reverse_append, List.takeWhile_append_of_pos all, front, List.append_nil, List.length_reverse,
    Nat.add_zero]

/-- The place of a rest leads back to it. -/
theorem leadsTo_of {text rest : List Char} (h : rest <:+ text) :
    (Position.of text rest).LeadsTo text rest := by
  have suffix := h
  obtain ⟨read, rfl⟩ := h
  obtain ⟨u, v, rfl, whole, inside⟩ := exists_lines read
  have place : Position.of (u ++ v ++ rest) rest = ⟨(lines u).length + 1, v.length + 1⟩ := by
    rw [of_append, after_lines whole inside]
  have before : (Position.of (u ++ v ++ rest) rest).linesBefore (u ++ v ++ rest) = u := by
    rw [place, linesBefore, List.append_assoc, whole.lines_append, Nat.add_sub_cancel, List.take_left,
      flatten_lines]
  have line : (Position.of (u ++ v ++ rest) rest).fromLine (u ++ v ++ rest) = v ++ rest := by
    rw [fromLine, before, List.append_assoc, List.drop_left]
  refine ⟨suffix, rfl, ?_, ?_, ?_, ?_⟩
  · rw [place, List.append_assoc, whole.lines_append, List.length_append]
    exact Nat.le_add_right _ _
  · rw [line, place, List.length_append]
    exact Nat.le_add_right _ _
  · rw [line, place, Nat.add_sub_cancel, List.take_left]
    exact inside
  · rw [offset, line, before, place, Nat.add_sub_cancel, List.take_left, octets_append, octets_append]
    split
    · rfl
    · next beyond =>
      -- there is nothing behind the place
      have empty : rest = [] := by
        rw [List.length_append] at beyond
        exact List.length_eq_zero_iff.1 (by omega)
      rw [empty]
      rfl

end Position

end Figment
