import SourceAtlas.Component.Attributes
import SourceAtlas.Proofs.BlockOpening

/-!
# A component has the attributes of its own body

Props and hooks are read off the text from the end of the signature to the end of the block that
follows it. Where that block closes, nothing else of the file has a say in them: what stands before
the signature's end is cut off before the scan starts, and what stands behind the closer is never
looked at by it (`Block.opening?_append_of_closed`), not even where it could go on with a comment or
a string. The passes over the body see the body alone, so a word boundary at its start is one,
whatever stood before.

* `blockEnd?_append` — the end of a block that closes, in a larger text;
* `attributes_of_own_body` — two files that share the text of a component share its attributes.
-/

namespace SourceAtlas.Component

open Block (closing? blockStart? blockEnd?)

variable {mid : List Char} {stop : Nat}

/-- **The end of a block that closes** stays where it is in every text around. -/
theorem blockEnd?_append (h : closing? mid 0 = some (stop, true)) (pre post : List Char) :
    blockEnd? (pre ++ (mid ++ post)) pre.length = some (pre.length + stop) := by
  obtain ⟨b, hb, hstop⟩ := Option.map_eq_some_iff.mp h
  obtain ⟨hstop, hclosed⟩ := Prod.mk.inj hstop
  rw [List.drop_zero] at hb
  rw [blockEnd?, List.drop_left, Block.opening?_append_of_closed hb hclosed, Option.map_some,
    ← hstop, Nat.zero_add]

/-- It lies behind the start of that text and in it. -/
theorem stop_of_closing? (h : closing? mid 0 = some (stop, true)) :
    0 < stop ∧ stop ≤ mid.length := by
  obtain ⟨b, hb, hstop⟩ := Option.map_eq_some_iff.mp h
  obtain ⟨rfl, -⟩ := Prod.mk.inj hstop
  have hle : b.stop ≤ mid.length := Block.stop_le_of_opening? hb
  have hpos : 0 < b.stop := by
    unfold Block.Found.stop
    omega
  exact ⟨by omega, by omega⟩

theorem attributes_append (h : closing? mid 0 = some (stop, true)) (pre post params : List Char) :
    attributes (pre ++ (mid ++ post)) pre.length params =
      { props := props params (mid.take stop), hooks := hooks (mid.take stop) } := by
  obtain ⟨hpos, hle⟩ := stop_of_closing? h
  rw [attributes, blockEnd?_append h]
  dsimp only
  rw [if_neg (by omega), Nat.add_sub_cancel_left, List.drop_left, List.take_append_of_le_length hle]

/-- **A component has the attributes of its own body.** Where the block behind a signature closes,
two files that share the text from the signature's end to the closer give the component the same
props and hooks: those of that text. Nothing before the signature's end or behind the closer is
attributed to it. -/
theorem attributes_of_own_body {o : Nat} (hopen : blockStart? mid 0 = some o)
    (hclosed : closing? mid o = some (stop, true)) (pre pre' post post' params : List Char) :
    attributes (pre ++ (mid ++ post)) pre.length params =
        attributes (pre' ++ (mid ++ post')) pre'.length params ∧
      attributes (pre ++ (mid ++ post)) pre.length params =
        { props := props params (mid.take stop), hooks := hooks (mid.take stop) } := by
  rw [Block.closing?_of_blockStart? hopen] at hclosed
  have hbody := attributes_append hclosed
  exact ⟨(hbody pre post params).trans (hbody pre' post' params).symm, hbody pre post params⟩

/-- Hooks and uses of props on both sides of a component, which itself has a closer in a comment. -/
theorem attributes_of_own_body_between :
    let mid := " => \x7b useB(props.b); /* \x7d */ \x7d".toList
    let pre := "useA(props.a); const C = use".toList
    let post := "useC(props.c)".toList
    blockStart? mid 0 = some 4 ∧ closing? mid 4 = some (30, true) ∧
      attributes (pre ++ (mid ++ post)) pre.length "props".toList =
          attributes ([] ++ (mid ++ [])) 0 "props".toList ∧
      attributes (pre ++ (mid ++ post)) pre.length "props".toList =
        { props := ["b"], hooks := ["useB"] } := by
  intro mid pre post
  have hopen : blockStart? mid 0 = some 4 := by decide +kernel
  have hclosed : closing? mid 4 = some (30, true) := by decide +kernel
  obtain ⟨hsame, hbody⟩ := attributes_of_own_body hopen hclosed pre [] post [] "props".toList
  refine ⟨hopen, hclosed, hsame, hbody.trans ?_⟩
  decide +kernel

end SourceAtlas.Component
