/-
# Templates put together at a line break

The tokens of a template are those of its lines, so two templates with a line break
between them are read one after the other.  The second is read as it would be alone, only
further down:

    template              a  ++  a line break  ++  b
    tokens                of a,  the line break if it is kept,  of b with its lines raised

How the line break is written makes no difference.  A carriage return alone is one only if
no line feed follows, since both together are a single line break (`Text.Breaks`).
-/
import TagTemplate.Proofs.Token.Tiling

namespace TagTemplate

namespace Text

/-- A way to write one line break before a text. -/
inductive Breaks (next : Text) : Text → Prop
  | feed : Breaks next [lineFeed]
  | returnFeed : Breaks next [carriageReturn, lineFeed]
  | return : next.head? ≠ some lineFeed → Breaks next [carriageReturn]

variable {a b ending : Text}

theorem Breaks.normalizeNewlines_append (h : Breaks b ending) :
    (ending ++ b).normalizeNewlines = lineFeed :: b.normalizeNewlines := by
  cases h with
  | feed => exact normalizeNewlines_cons (by decide) b
  | returnFeed => exact normalizeNewlines_returnFeed b
  | «return» hb => exact normalizeNewlines_return hb

theorem Breaks.lines_append (h : Breaks b ending) (ha : a.getLast? ≠ some carriageReturn) :
    (a ++ (ending ++ b)).normalizeNewlines.lines =
      a.normalizeNewlines.lines ++ b.normalizeNewlines.lines := by
  rw [Text.normalizeNewlines_append fun hlast => absurd hlast ha, h.normalizeNewlines_append]
  exact splitOn_append_sep lineFeed _ _

theorem normalizeNewlines_idem (t : Text) :
    t.normalizeNewlines.normalizeNewlines = t.normalizeNewlines :=
  normalizeNewlines_of_not_mem (carriageReturn_not_mem_normalizeNewlines t)

end Text

namespace Token

/-- The token so many lines further down. -/
def raise (count : Nat) (t : Token) : Token :=
  { t with position := { t.position with line := t.position.line + count } }

/-- The token is a line break that was kept. -/
def IsBreak (t : Token) : Prop := t.content = .text [Text.lineFeed]

instance (t : Token) : Decidable t.IsBreak :=
  inferInstanceAs (Decidable (t.content = .text [Text.lineFeed]))

/-- The tokens without the line breaks among them. -/
def withoutBreaks (ts : List Token) : List Token := ts.filter (¬ ·.IsBreak)

variable {keepNewlines : Bool} {number column : Nat} {line source : Text} {lines : List Text}
  {tokens : List Token}

/-! ## Lines further down -/

theorem ofPiece_raised (number count column : Nat) (p : Piece) :
    ofPiece ⟨↑(number + count), column⟩ p = (ofPiece ⟨number, column⟩ p).map (raise count) := by
  cases p with
  | literal text => rw [Int.natCast_add]; rfl
  | tag lexeme tag =>
      rw [Int.natCast_add, ofPiece, ofPiece]
      cases tag.content <;> rfl

theorem ofPieces_raised (number count : Nat) : ∀ (column : Nat) (ps : List Piece),
    ofPieces (number + count) column ps = (ofPieces number column ps).map (List.map (raise count))
  | _, [] => rfl
  | column, p :: ps => by
      rw [ofPieces, ofPieces, ofPiece_raised, ofPieces_raised number count _ ps]
      cases ofPiece ⟨number, column⟩ p with
      | error e => rfl
      | ok token => cases ofPieces number (column + p.lexeme.length) ps <;> rfl

theorem raise_lineBreak (number count : Nat) :
    (lineBreak number).raise count = lineBreak (number + count) := by
  rw [raise, lineBreak, lineBreak, Int.natCast_add]

/-- The lines after the first are read alike wherever they are. -/
theorem ofLines_raised (keepNewlines : Bool) (count : Nat) :
    ∀ {number : Nat} (lines : List Text), 1 < number →
      ofLines keepNewlines (number + count) lines =
        (ofLines keepNewlines number lines).map (List.map (raise count))
  | _, [], _ => rfl
  | number, line :: lines, hnumber => by
      rw [ofLines, ofLines, ofPieces_raised, Nat.add_right_comm,
        ofLines_raised keepNewlines count lines (by omega)]
      cases ofPieces number 0 (Piece.ofLine line) with
      | error e => rfl
      | ok here =>
          cases ofLines keepNewlines (number + 1) lines with
          | error e => rfl
          | ok rest =>
              cases keepNewlines <;>
                simp [Except.map, bind, Except.bind, pure, Except.pure, hnumber,
                  Nat.lt_add_right, raise_lineBreak]

/-- The lines of a template below other lines: a line break is before the first of them too. -/
theorem ofLines_below (keepNewlines : Bool) {count : Nat} (hcount : 0 < count) (line : Text)
    (lines : List Text) :
    ofLines keepNewlines (1 + count) (line :: lines) =
      (ofLines keepNewlines 1 (line :: lines)).map fun tokens =>
        (if keepNewlines then [lineBreak (count + 1)] else []) ++ tokens.map (raise count) := by
  rw [ofLines, ofLines, ofPieces_raised, Nat.add_right_comm,
    ofLines_raised keepNewlines count lines (by omega), Nat.add_comm 1 count]
  cases ofPieces 1 0 (Piece.ofLine line) with
  | error e => rfl
  | ok here =>
      cases ofLines keepNewlines 2 lines with
      | error e => rfl
      | ok rest =>
          cases keepNewlines <;>
            simp [Except.map, bind, Except.bind, pure, Except.pure, hcount]

theorem ofLines_append (keepNewlines : Bool) : ∀ (number : Nat) (upper lower : List Text),
    ofLines keepNewlines number (upper ++ lower) = do
      let before ← ofLines keepNewlines number upper
      let after ← ofLines keepNewlines (number + upper.length) lower
      return before ++ after
  | number, [], lower => by
      show _ = ofLines keepNewlines number lower >>= pure
      rw [bind_pure]
      rfl
  | number, line :: upper, lower => by
      rw [List.cons_append, ofLines, ofLines, ofLines_append keepNewlines (number + 1) upper lower,
        List.length_cons, Nat.add_right_comm, Nat.add_assoc]
      cases ofPieces number 0 (Piece.ofLine line) with
      | error e => rfl
      | ok here =>
          cases ofLines keepNewlines (number + 1) upper with
          | error e => rfl
          | ok before =>
              cases ofLines keepNewlines (number + (upper.length + 1)) lower with
              | error e => rfl
              | ok after => exact congrArg Except.ok (List.append_assoc _ before after).symm

/-! ## Line breaks left out -/

theorem withoutBreaks_append (ts us : List Token) :
    withoutBreaks (ts ++ us) = withoutBreaks ts ++ withoutBreaks us := List.filter_append ts us

theorem withoutBreaks_ofPieces (hline : Text.lineFeed ∉ line)
    (h : ofPieces number column (Piece.ofLine line) = .ok tokens) :
    withoutBreaks tokens = tokens := by
  refine List.filter_eq_self.mpr fun t ht => decide_eq_true fun hbreak => ?_
  have hliteral := mem_of_mem_ofPieces (Piece.tiles_ofLine line) h ht hbreak
  exact hline (((Piece.tiles_ofLine line).of_mem hliteral).1 _ List.mem_cons_self)

theorem withoutBreaks_ofLines : ∀ (number : Nat) {lines : List Text},
    (∀ line ∈ lines, Text.lineFeed ∉ line) →
      (ofLines true number lines).map withoutBreaks = ofLines false number lines
  | _, [], _ => rfl
  | number, line :: lines, h => by
      obtain ⟨hline, hlines⟩ := List.forall_mem_cons.mp h
      rw [ofLines, ofLines, ← withoutBreaks_ofLines (number + 1) hlines]
      cases hhere : ofPieces number 0 (Piece.ofLine line) with
      | error e => rfl
      | ok here =>
          cases ofLines true (number + 1) lines with
          | error e => rfl
          | ok rest =>
              have hbefore : ∀ p : Prop, [Decidable p] →
                  withoutBreaks (if p then [lineBreak number] else []) = [] := by
                intro p _
                split <;> rfl
              refine congrArg Except.ok ?_
              show withoutBreaks (_ ++ here ++ rest) = [] ++ here ++ withoutBreaks rest
              rw [withoutBreaks_append, withoutBreaks_append, hbefore,
                withoutBreaks_ofPieces hline hhere]

/-! ## Templates put together -/

/-- Reading goes line by line, and how lines end makes no difference.  Carriage returns are turned
into line feeds once and for all, and a template is read as if it had none.  Two templates with a
line break between them, however it is written, are read as the first, then the line break if it
is kept, then the second as many lines further down as the first has.  Line breaks that are kept
are the only difference which keeping them makes. -/
theorem ofSource_linewise :
    (∀ source : Text, source.normalizeNewlines.normalizeNewlines = source.normalizeNewlines ∧
      Text.carriageReturn ∉ source.normalizeNewlines ∧
      (∀ keepNewlines, ofSource keepNewlines source.normalizeNewlines =
        ofSource keepNewlines source) ∧
      (ofSource true source).map withoutBreaks = ofSource false source) ∧
    ∀ a b ending : Text, a.getLast? ≠ some Text.carriageReturn → b.Breaks ending →
      ∀ keepNewlines, ofSource keepNewlines (a ++ (ending ++ b)) = do
        let count := a.normalizeNewlines.lines.length
        let before ← ofSource keepNewlines a
        let after ← ofSource keepNewlines b
        return before ++ (if keepNewlines then [lineBreak (count + 1)] else []) ++
          after.map (raise count) := by
  constructor
  · intro source
    refine ⟨Text.normalizeNewlines_idem source,
      Text.carriageReturn_not_mem_normalizeNewlines source, fun keepNewlines => ?_,
      withoutBreaks_ofLines 1 fun _ => Text.not_mem_of_mem_splitOn⟩
    rw [ofSource, Text.normalizeNewlines_idem]
    rfl
  · intro a b ending ha hbreaks keepNewlines
    have hcount : 0 < a.normalizeNewlines.lines.length := by
      obtain ⟨first, rest, heq, -⟩ :=
        Text.exists_splitOn_cons Text.lineFeed a.normalizeNewlines
      rw [Text.lines, heq]
      exact Nat.succ_pos _
    obtain ⟨first, rest, heq, -⟩ := Text.exists_splitOn_cons Text.lineFeed b.normalizeNewlines
    rw [ofSource, hbreaks.lines_append ha, ofLines_append, ofSource, ofSource,
      show b.normalizeNewlines.lines = first :: rest from heq, ofLines_below _ hcount]
    cases ofLines keepNewlines 1 a.normalizeNewlines.lines with
    | error e => rfl
    | ok before =>
        cases ofLines keepNewlines 1 (first :: rest) with
        | error e => rfl
        | ok after => exact congrArg Except.ok (List.append_assoc _ _ _).symm

/-- A template of two lines before another one, with a carriage return and a line feed between
them. -/
theorem ofSource_linewise_three_lines :
    let a : Text := "a\n<tmpl_var b>"
    let b : Text := "c<tmpl_if>"
    let ending : Text := [Text.carriageReturn, Text.lineFeed]
    a.getLast? ≠ some Text.carriageReturn ∧ b.Breaks ending ∧
      ofSource true (a ++ (ending ++ b)) = .ok [⟨.text "a", ⟨1, 0⟩, .plain⟩, lineBreak 2,
        ⟨.output "b", ⟨2, 0⟩, .plain⟩, lineBreak 3, ⟨.text "c<tmpl_if>", ⟨3, 0⟩, .plain⟩] := by
  intro a b ending
  have ha : a.getLast? ≠ some Text.carriageReturn := by decide
  refine ⟨ha, .returnFeed, (ofSource_linewise.2 a b ending ha .returnFeed true).trans ?_⟩
  decide +kernel +zetaReduce +revert

end Token

end TagTemplate
