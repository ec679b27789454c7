import ReplicaRouter.Text.CaseTable
/-
Upper-casing of texts by the full Unicode mapping, under which one character may become several:
`ß` becomes `SS` and the ligature `ﬆ` becomes `ST`.
-/
namespace ReplicaRouter.Text

/-- The upper case of a character; a character without one is its own. -/
def upperOf (c : Char) : List Char :=
  if c.toNat < 0x80 then
    [if 'a' ≤ c ∧ c ≤ 'z' then Char.ofNat (c.toNat - 32) else c]
  else match upperTexts.find? (fun entry => entry.1 == c.toNat) with
    | some (_, text) => text.map Char.ofNat
    | none => match upperRuns.find? (fun run => run.covers c.toNat) with
      | some run => [Char.ofNat (Int.ofNat c.toNat + run.shift).toNat]
      | none => [c]

/-- The text with every character replaced by its upper case. -/
def upper (cs : List Char) : List Char := cs.flatMap upperOf

end ReplicaRouter.Text
