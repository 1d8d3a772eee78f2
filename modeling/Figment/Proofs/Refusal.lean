import Figment.Proofs.Pattern.Stopping
import Figment.Proofs.Position
import Figment.Proofs.Template.Stopping
/-!
What is said when a text is refused, and where.

A template is read to its end unless one of its directives is refused, and behind a pattern nothing but
a closing parenthesis or the mark of a quantifier is left over. So no error speaks of any other
character. The place in an error is that of a rest of the text: the one that its reader has in front of
it, or the whole text where a pattern is read to its end and refused for its long strings.
-/

namespace Figment

theorem Template.read_ne_leftover (text : String) (place : Position) (c : Char) :
    Template.read text ≠ .error (.malformed place s!"unexpected character: '{c}'") := by
  intro refused
  obtain ⟨t, _, committed, e⟩ := Template.read_eq_error refused
  split at e
  · cases e
  · exact committed.message_ne c (SyntaxError.malformed.inj e).2.symm

theorem Pattern.read_ne_leftover (text : String) (place : Position) (c : Char) :
    Pattern.read text ≠ .error (.malformed place s!"unexpected character: '{c}'") := by
  intro refused
  rcases Pattern.read_eq_error refused with
    ⟨t, _, committed, e⟩ | ⟨p, _, _, e⟩ | ⟨p, d, rest, _, known, e⟩
  · exact committed.message_ne c (SyntaxError.malformed.inj e).2.symm
  · exact ne_unexpected c (by decide) (SyntaxError.malformed.inj e).2.symm
  · exact Pattern.leftoverMessage_ne known c (SyntaxError.malformed.inj e).2.symm

/-- Reading a template is in trouble or comes to the end of the text, and what is left over behind a
pattern begins with a closing parenthesis or the mark of a quantifier. No text is refused for any other
character that is left over. -/
theorem leftovers_law :
    (∀ text : String, (∃ t, Template.readSegments text.toList = .stuck t) ∨
      ∃ segments, Template.readSegments text.toList = .done segments []) ∧
    (∀ (text : String) (place : Position) (c : Char),
      Template.read text ≠ .error (.malformed place s!"unexpected character: '{c}'")) ∧
    (∀ (text : String) p c rest, Pattern.readAlternatives text.toList = .done p (c :: rest) →
      c ∈ [')', '*', '+', '?', '\x7b']) ∧
    ∀ (text : String) (place : Position) (c : Char),
      Pattern.read text ≠ .error (.malformed place s!"unexpected character: '{c}'") :=
  ⟨fun text => Template.readSegments_stuck_or_done text.toList, Template.read_ne_leftover,
    fun _ _ _ _ => Pattern.leftover_of_readAlternatives, Pattern.read_ne_leftover⟩

/-- A parenthesis closes what has not been opened. -/
theorem leftovers_law_parenthesis :
    Pattern.readAlternatives "a|)b".toList = .done [[.mk (.literal 'a') 1 1], []] [')', 'b'] ∧
      ')' ∈ [')', '*', '+', '?', '\x7b'] := by
  have alternatives : Pattern.PatternText ['a', '|'] [[.mk (.literal 'a') 1 1], []] :=
    .more (.cons (.once (.literal (by decide))) .nil) (.one .nil)
  have left : Pattern.readAlternatives "a|)b".toList =
      .done [[.mk (.literal 'a') 1 1], []] [')', 'b'] :=
    alternatives.read [')', 'b'] (by rintro c ⟨⟩; rfl)
  exact ⟨left, leftovers_law.2.2.1 _ _ _ _ left⟩

/-- An error points at a rest of its text: its place leads there, and the mark of its diagnostic has as
many octets in front of it. -/
structure SyntaxError.PointsAt (e : SyntaxError) (text : String) (rest : List Char) : Prop where
  leads : e.place.LeadsTo text.toList rest
  mark : ∀ origin, (Diagnostic.ofSyntaxError origin text e).mark =
    some (octets text.toList - octets rest, 1)

theorem SyntaxError.pointsAt_of_place {e : SyntaxError} {text : String} {rest : List Char}
    (place : e.place = .of text.toList rest) (suffix : rest <:+ text.toList) :
    e.PointsAt text rest := by
  have leads : e.place.LeadsTo text.toList rest := place ▸ Position.leadsTo_of suffix
  refine ⟨leads, fun origin => ?_⟩
  rw [Diagnostic.ofSyntaxError, ← leads.offset, Nat.add_sub_cancel]

theorem Template.pointsAt_of_read {text : String} {e : SyntaxError}
    (h : Template.read text = .error e) :
    e.PointsAt text (Template.readSegments text.toList).rest := by
  obtain ⟨t, stuck, _, rfl⟩ := Template.read_eq_error h
  apply SyntaxError.pointsAt_of_place
  · rw [stuck]
    split
    · next ends => rw [Reply.rest_stuck, ends]; rfl
    · rfl
  · exact Template.readSegments_suffix _

theorem Pattern.pointsAt_of_read {text : String} {e : SyntaxError} (h : Pattern.read text = .error e) :
    e.PointsAt text (Pattern.readAlternatives text.toList).rest ∨
      (∃ p, Pattern.readAlternatives text.toList = .done p [] ∧
        Pattern.maxExpansion < Pattern.longest p) ∧ e.PointsAt text text.toList := by
  have below := Pattern.readAlternatives_suffix text.toList
  rcases Pattern.read_eq_error h with
    ⟨t, stuck, _, rfl⟩ | ⟨p, whole, long, rfl⟩ | ⟨p, c, rest, left, _, rfl⟩
  · refine .inl (SyntaxError.pointsAt_of_place ?_ below)
    rw [stuck]
    rfl
  · exact .inr ⟨⟨p, whole, long⟩, SyntaxError.pointsAt_of_place rfl List.suffix_rfl⟩
  · refine .inl (SyntaxError.pointsAt_of_place ?_ below)
    rw [left]
    rfl

/-- Places are later the less they leave of a text, and so each of them determines what it leaves.
Cutting the part in front off by octets gives the same place as counting its characters. An error points
at the rest that its reader has in front of it; a pattern that is read to its end and then refused,
because its strings are too long, is refused where it begins. -/
theorem places_law (text : String) :
    (∀ longer shorter, longer <:+ text.toList → shorter <:+ text.toList →
      shorter.length < longer.length →
      (Position.of text.toList longer).Before (.of text.toList shorter)) ∧
    (∀ s t, s <:+ text.toList → t <:+ text.toList →
      Position.of text.toList s = .of text.toList t → s = t) ∧
    (∀ rest, rest <:+ text.toList → Position.of text.toList rest =
      .after ((octetPrefix? (octets text.toList - octets rest) text.toList).getD text.toList)) ∧
    (∀ e, Template.read text = .error e →
      e.PointsAt text (Template.readSegments text.toList).rest) ∧
    ∀ e, Pattern.read text = .error e →
      e.PointsAt text (Pattern.readAlternatives text.toList).rest ∨
        (∃ p, Pattern.readAlternatives text.toList = .done p [] ∧
          Pattern.maxExpansion < Pattern.longest p) ∧ e.PointsAt text text.toList :=
  ⟨fun _ _ => Position.of_before_of, fun _ _ => Position.eq_of_of_eq,
    fun _ => Position.of_eq_octetPrefix, fun _ => Template.pointsAt_of_read,
    fun _ => Pattern.pointsAt_of_read⟩

/-- Behind a line with a character of two octets, a pattern ends at a parenthesis, and a template ends
inside a directive. -/
theorem places_law_accent :
    (Position.mk 2 1).Before ⟨2, 4⟩ ∧
      Template.read "é\n)#\x7b" = .error (.cutShort ⟨2, 4⟩) ∧
      (SyntaxError.cutShort ⟨2, 4⟩).PointsAt "é\n)#\x7b"
        (Template.readSegments "é\n)#\x7b".toList).rest ∧
      Pattern.read "é\n)#\x7b" = .error (.malformed ⟨2, 1⟩ "unmatched ')'") ∧
      (SyntaxError.malformed ⟨2, 1⟩ "unmatched ')'").PointsAt "é\n)#\x7b" [')', '#', '\x7b'] := by
  have law := places_law "é\n)#\x7b"
  have ahead : (Position.mk 2 1).Before ⟨2, 4⟩ :=
    law.1 [')', '#', '\x7b'] [] (by decide) (by decide) (by decide)
  have refused : (Template.read "é\n)#\x7b").map (fun _ => ()) = .error (.cutShort ⟨2, 4⟩) := by
    decide +kernel
  have short : Template.read "é\n)#\x7b" = .error (.cutShort ⟨2, 4⟩) := by
    cases reply : Template.read "é\n)#\x7b" with
    | error e =>
      rw [reply] at refused
      cases refused
      rfl
    | ok t =>
      rw [reply] at refused
      cases refused
  have line : Pattern.PatternText ['é', '\n'] [[.mk (.literal 'é') 1 1, .mk (.literal '\n') 1 1]] :=
    .one (.cons (.once (.literal (by decide))) (.cons (.once (.literal (by decide))) .nil))
  have left : Pattern.readAlternatives "é\n)#\x7b".toList =
      .done [[.mk (.literal 'é') 1 1, .mk (.literal '\n') 1 1]] [')', '#', '\x7b'] :=
    line.read [')', '#', '\x7b'] (by rintro c ⟨⟩; rfl)
  have unmatched : Pattern.read "é\n)#\x7b" = .error (.malformed ⟨2, 1⟩ "unmatched ')'") := by
    rw [Pattern.read, left]
    rfl
  refine ⟨ahead, short, law.2.2.2.1 _ short, unmatched, ?_⟩
  rcases law.2.2.2.2 _ unmatched with points | ⟨⟨p, whole, _⟩, _⟩
  · rw [left] at points
    exact points
  · rw [left] at whole
    cases whole

end Figment
