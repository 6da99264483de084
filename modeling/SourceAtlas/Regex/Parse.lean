import SourceAtlas.Regex.Opener

/-!
# From pattern texts to patterns

`Regex.parse` reads a pattern text. The notation has ordered choice, sets and classes, repetition in
three modes, groups that are numbered, named, atomic or plain, flags for the whole pattern or for a
group, look-around, references to groups and conditions on them.

Reading resolves the flags: the pattern that comes out tests characters only. Two things are checked
when the whole text has been read: that a look-behind has a fixed width, and that no repetition
stands under the flag that forbids them. Groups are read inside each other, and the levels that this
takes are counted: there is an end to them (`levelLimit`).
-/

namespace SourceAtlas.Regex

namespace Reader

/-- Blanks that a verbose pattern leaves out. -/
def isVerboseBlank (t : Token) : Bool :=
  match t with
  | .plain c => c = ' ' || (9 ≤ c.toNat && c.toNat ≤ 13)
  | .escaped _ => false

mutual

/-- An ordered choice at a level. `outer` holds outside of all groups; `branches` were read already,
in reverse order. -/
def alternation (level : Nat) (outer : Bool) (scope : Scope) (branches : List Part) :
    Nat → Reads Part
  | 0 => refuse .unexpectedEnd 0
  | n + 1 => do
    let branch ← sequence level (outer && branches.isEmpty) scope [] n
    let branches := branch :: branches
    if ← accept '|' then
      let flags := (← get).flags
      let scope := if outer then Scope.ofFlags flags else scope
      alternation level outer scope branches n
    else return Part.ofBranches branches.reverse
termination_by structural fuel => fuel

/-- A sequence at a level. `leading` holds in the first branch outside of all groups, where flags
for the whole pattern may stand; `pieces` were read already, in reverse order. -/
def sequence (level : Nat) (leading : Bool) (scope : Scope) (pieces : List Piece) : Nat → Reads Part
  | 0 => refuse .unexpectedEnd 0
  | n + 1 => do
    match (← get).next with
    | none => return Part.ofPieces pieces
    | some t =>
      if t = .plain '|' || t = .plain ')' then return Part.ofPieces pieces
      else
        advance
        if scope.verbose && isVerboseBlank t then sequence level leading scope pieces n
        else if scope.verbose && t = .plain '#' then
          skipLine ((← get).rest.length + 3)
          sequence level leading scope pieces n
        else
          match t with
          | .escaped c =>
            let piece ← escape scope c
            sequence level leading scope (piece :: pieces) n
          | .plain '[' =>
            let piece ← charSet scope
            sequence level leading scope (piece :: pieces) n
          | .plain '.' =>
            let piece := charPiece (if scope.dotAll then fun _ => true else fun c => c != '\n')
            sequence level leading scope (piece :: pieces) n
          | .plain '^' =>
            let anchor := if scope.multiline then Anchor.lineStart else .textStart
            sequence level leading scope (anchorPiece anchor :: pieces) n
          | .plain '$' =>
            let anchor := if scope.multiline then Anchor.lineEnd else .lastLineEnd
            sequence level leading scope (anchorPiece anchor :: pieces) n
          | .plain '(' =>
            let start := (← get).pos - 1
            let kind ← groupKind scope (leading && pieces.isEmpty)
            let flags := (← get).flags
            let scope := if leading then Scope.ofFlags flags else scope
            let pieces ← groupBody level scope start kind pieces n
            sequence level leading scope pieces n
          | .plain c =>
            if c = '*' || c = '+' || c = '?' || c = '{' then
              let here := (← get).pos
              match ← repetitionBounds c with
              | none => sequence level leading scope (codePiece scope c.toNat :: pieces) n
              | some (least, most) =>
                let pieces ← repetition here least most pieces
                sequence level leading scope pieces n
            else sequence level leading scope (codePiece scope c.toNat :: pieces) n
termination_by structural fuel => fuel

/-- The body of a group that opened at offset `start` of a sequence at a level, added to the pieces
before it. -/
def groupBody (level : Nat) (scope : Scope) (start : Nat) (kind : GroupKind) (pieces : List Piece) :
    Nat → Reads (List Piece)
  | 0 => refuse .unexpectedEnd 0
  | n + 1 => do
    match kind with
    | .done none => return pieces
    | .done (some piece) => return piece :: pieces
    | .capture groupName =>
      let index ← openGroup groupName
      requireLevel (level + 2)
      let body ← alternation (level + 2) false scope [] n
      requireClose start
      closeGroup index body.width
      return { body with node := .group index body.node, role := .item } :: pieces
    | .plain on off =>
      requireLevel (level + 2)
      let body ← alternation (level + 2) false (scope.change on off) [] n
      requireClose start
      return body.piece :: pieces
    | .atomic =>
      requireLevel (level + 2)
      let body ← alternation (level + 2) false scope [] n
      requireClose start
      return { body with node := .atomic body.node, role := .item } :: pieces
    | .ahead positive =>
      requireLevel (level + 2)
      let body ← alternation (level + 2) false scope [] n
      requireClose start
      return lookPiece (.ahead positive body.node) body.late :: pieces
    | .behind positive =>
      -- inside another look-behind the groups before that one count
      let outer := (← get).behindFrom
      if outer.isNone then modify fun r => { r with behindFrom := some r.groupCount }
      requireLevel (level + 2)
      let body ← alternation (level + 2) false scope [] n
      if outer.isNone then modify fun r => { r with behindFrom := none }
      requireClose start
      return lookPiece (.behind positive body.width.low body.node)
        (lookbehindFaults body.width ++ body.late) :: pieces
    | .condition index =>
      -- the branches of a condition are sequences, so one level is enough
      requireLevel (level + 1)
      let yes ← sequence (level + 1) false scope [] n
      let no ← if ← accept '|' then (do
          let no ← sequence (level + 1) false scope [] n
          if (← get).next = some (.plain '|') then refuse .tooManyBranches 0
          else return some no)
        else pure none
      requireClose start
      let width :=
        match no with
        | some p => ⟨min yes.width.low p.width.low, max yes.width.high p.width.high⟩
        | none => ⟨0, yes.width.high⟩
      return { node := .ifGroup index yes.node ((no.map Part.node).getD .empty), width,
               late := yes.late ++ (no.map Part.late).getD [], role := .item } :: pieces
termination_by structural fuel => fuel

end

/-- The checks that follow when the whole text has been read. -/
def finish (p : Part) : Reads Regex := do
  let r ← get
  if r.flags.contains .ascii && r.flags.contains .unicode then throw .flagsContradict
  else if r.next.isSome then refuse .unbalancedParenthesis 0
  else
    match r.conditions.find? fun c => r.groupCount ≤ c.1 with
    | some (index, pos) => throw (.at (.invalidGroupReference index) pos)
    | none =>
      match p.late with
      | fault :: _ => throw fault
      | [] => return p.node

end Reader

open Reader in
/-- **Reads a pattern text.** -/
def parse (ignoreCase : Bool) (pattern : List Char) : Except Fault Regex := do
  let flags := if ignoreCase then [Flag.ignoreCase] else []
  let start ← Reading.start flags pattern
  let read : Reads Regex := do
    let p ← alternation 0 true (Scope.ofFlags flags) [] (3 * pattern.length + 6)
    finish p
  (·.1) <$> read.run start

end SourceAtlas.Regex
