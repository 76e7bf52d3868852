import ToolBindings.Text.Utf8

/-!
# UTF-8 read back

The octets of a text are read as this text.
-/

namespace ToolBindings.Text.Utf8

/-- The octets that a loop over an array puts in front of what it has. -/
private theorem loop_eq (octets : ByteArray) (i : Nat) (done : List UInt8) :
    ByteArray.toList.loop octets i done = done.reverse ++ octets.data.toList.drop i := by
  fun_induction ByteArray.toList.loop octets i done with
  | case1 i done hi ih =>
    have hlength : i < octets.data.toList.length := by
      rwa [Array.length_toList]
    have hget : octets.get! i = octets.data.toList[i] := by
      rw [Array.getElem_toList]
      exact getElem!_pos octets.data i hi
    rw [ih, List.drop_eq_getElem_cons hlength, hget, List.reverse_cons, List.append_assoc]
    rfl
  | case2 i done hi =>
    have hlength : octets.data.toList.length ≤ i := by
      rw [Array.length_toList]
      exact Nat.le_of_not_lt hi
    rw [List.drop_of_length_le hlength, List.append_nil]

theorem toList_eq_data (octets : ByteArray) : octets.toList = octets.data.toList := by
  rw [ByteArray.toList, loop_eq]
  rfl

/-- A text is read from its octets. -/
@[simp] theorem decode?_encode (s : String) : decode? (encode s) = some s := by
  have hoctets : (⟨(encode s).toArray⟩ : ByteArray) = s.toByteArray := by
    rw [encode, toList_eq_data, Array.toArray_toList]
    rfl
  rw [decode?, hoctets, String.fromUTF8?, dif_pos s.isValidUTF8]
  rfl

end ToolBindings.Text.Utf8
