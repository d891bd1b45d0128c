/-
# Listings — programs for reading

A listing has one line per operation, the index first:

    0000 text 'Rows: '
    0001 loop data.rows slot=1 end=3
    0002 output html(data.rows[i1].v)
    0003 end loop start=1
-/
import TagTemplate.Program.Basic

namespace TagTemplate

def Action.listing : Action → Text
  | text value => "text " ++ value.quoted
  | output ref .plain => "output " ++ ref.text
  | output ref escape => "output " ++ escape.word ++ "(" ++ ref.text ++ ")"
  | branch negated ref elseIndex endIndex =>
    let kind : BlockKind := if negated then .unlessBlock else .ifBlock
    let elsePart : Text := match elseIndex with
      | none => []
      | some i => " else=" ++ Text.ofInt i
    kind.word ++ " " ++ ref.text ++ elsePart ++ " end=" ++ Text.ofInt endIndex
  | alternative endIndex => "else end=" ++ Text.ofInt endIndex
  | loop ref slot endIndex =>
    "loop " ++ ref.text ++ " slot=" ++ Text.ofInt slot ++ " end=" ++ Text.ofInt endIndex
  | finish word startIndex => "end " ++ word ++ " start=" ++ Text.ofInt startIndex
  | inert => title inert

/-- The line of a listing for the operation at an index. -/
def Op.listingLine (index : Nat) (op : Op) : Text :=
  (Text.ofNat index).padLeft 4 '0' ++ " " ++ op.action.listing

def Program.listing (p : Program) : Text :=
  Text.join "\n" (p.ops.toList.mapIdx Op.listingLine)

end TagTemplate
