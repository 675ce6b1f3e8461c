import ColorSpans.Proofs.Literal.Scan

/-! How far back a decoder looks. Nothing before the character in front of a literal can change what
is found, and of that character only its class counts. -/
namespace ColorSpans

theorem Spot.inLine_of_pos {line : List Char} {column : Nat} (positive : 0 < column) :
    Spot.inLine line column = ⟨(line.drop (column - 1)).head?, (line.drop (column - 1)).tail⟩ := by
  have next : column - 1 + 1 = column := Nat.sub_add_cancel positive
  rw [List.head?_drop, List.tail_drop, next, Spot.inLine, if_neg (by omega)]

namespace Matcher

variable {m : Matcher} {definitions : Option Definitions}

theorem readColumn_congr {line line' : String} {column column' : Nat}
    (inside : column < line.length) (ahead : line.toList.drop column = line'.toList.drop column')
    (alphanumeric : (Spot.inLine line.toList column).precededBy isAlphanumeric =
      (Spot.inLine line'.toList column').precededBy isAlphanumeric)
    (identifier : (Spot.inLine line.toList column).precededBy isIdentifier =
      (Spot.inLine line'.toList column').precededBy isIdentifier) :
    m.readColumn definitions line column = m.readColumn definitions line' column' := by
  have inside' : column' < line'.length := by
    have lengths := congrArg List.length ahead
    simp only [List.length_drop, String.length_toList] at lengths
    omega
  rw [readColumn_natCast inside, readColumn_natCast inside', readAt_eq, readAt_eq,
    readSpot_congr ahead alphanumeric identifier]

/-- What is read behind the first column is read in the line that begins with the column before it,
and in every other line that goes on like that. -/
theorem readColumn_lookback (m : Matcher) (definitions : Option Definitions) (line : String)
    (column : Nat) (positive : 0 < column) (inside : column < line.length) :
    m.readColumn definitions line column =
      m.readColumn definitions (String.ofList (line.toList.drop (column - 1))) (1 : Nat) ∧
    ∀ (line' : String) (column' : Nat), 0 < column' →
      line.toList.drop (column - 1) = line'.toList.drop (column' - 1) →
      m.readColumn definitions line column = m.readColumn definitions line' column' := by
  have alike (line' : String) (column' : Nat) (positive' : 0 < column')
      (same : line.toList.drop (column - 1) = line'.toList.drop (column' - 1)) :
      m.readColumn definitions line column = m.readColumn definitions line' column' := by
    have spot : Spot.inLine line.toList column = Spot.inLine line'.toList column' := by
      rw [Spot.inLine_of_pos positive, Spot.inLine_of_pos positive', same]
    exact readColumn_congr inside (congrArg Spot.ahead spot) (by rw [spot]) (by rw [spot])
  refine ⟨alike _ 1 Nat.one_pos ?_, alike⟩
  rw [String.toList_ofList, Nat.sub_self, List.drop_zero]

theorem readColumn_lookback_colon :
    (compile ⟨false, ⟨true, false, false⟩, false, false, false, .off, false, none⟩
      ⟨[], []⟩).readColumn none
      "border:#09C;" (7 : Nat) = .ok (some ⟨4, "0099cc"⟩) := by
  refine (readColumn_lookback _ none "border:#09C;" 7 (by decide) (by decide)).1.trans ?_
  exact eq_ok_of_toOption (by decide +kernel)

end Matcher

end ColorSpans
