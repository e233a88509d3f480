import MucOpcua.Encoding.BinaryReader
import MucOpcua.Encoding.BinaryWriter

/-!
# Byte order

`binary_le.h` read in both directions: what was stored is loaded, and what was loaded is what lies
in the buffer.
-/

namespace MucOpcua

@[simp] theorem length_lePutU16 (value : UInt16) : (lePutU16 value).length = 2 := rfl

@[simp] theorem length_lePutU32 (value : UInt32) : (lePutU32 value).length = 4 := rfl

@[simp] theorem length_lePutU64 (value : UInt64) : (lePutU64 value).length = 8 := rfl

/-! ## Storing, then loading -/

theorem leGetU16_lePutU16 (value : UInt16) (rest : List UInt8) :
    leGetU16 (lePutU16 value ++ rest) = value := by
  apply UInt16.toBitVec_inj.mp
  simp only [leGetU16,lePutU16,List.cons_append,List.getD_cons_zero,List.getD_cons_succ]
  apply BitVec.eq_of_getLsbD_eq
  intro i hi
  simp only [UInt16.toBitVec_or,UInt16.toBitVec_shiftLeft,UInt8.toBitVec_toUInt16,
    BitVec.getLsbD_or,BitVec.getLsbD_setWidth,BitVec.shiftLeft_eq',BitVec.getLsbD_shiftLeft]
  interval_cases i <;> simp

theorem leGetU32_lePutU32 (value : UInt32) (rest : List UInt8) :
    leGetU32 (lePutU32 value ++ rest) = value := by
  apply UInt32.toBitVec_inj.mp
  simp only [leGetU32,lePutU32,List.cons_append,List.getD_cons_zero,List.getD_cons_succ]
  apply BitVec.eq_of_getLsbD_eq
  intro i hi
  simp only [UInt32.toBitVec_or,UInt32.toBitVec_shiftLeft,UInt8.toBitVec_toUInt32,
    UInt32.toBitVec_toUInt8,BitVec.getLsbD_or,BitVec.getLsbD_setWidth,BitVec.shiftLeft_eq',
    BitVec.getLsbD_shiftLeft]
  interval_cases i <;> simp

theorem leGetU64_lePutU64 (value : UInt64) (rest : List UInt8) :
    leGetU64 (lePutU64 value ++ rest) = value := by
  apply UInt64.toBitVec_inj.mp
  simp only [leGetU64,lePutU64,List.cons_append,List.getD_cons_zero,List.getD_cons_succ]
  apply BitVec.eq_of_getLsbD_eq
  intro i hi
  simp only [UInt64.toBitVec_or,UInt64.toBitVec_shiftLeft,UInt8.toBitVec_toUInt64,
    UInt64.toBitVec_toUInt8,BitVec.getLsbD_or,BitVec.getLsbD_setWidth,
    BitVec.shiftLeft_eq',BitVec.getLsbD_shiftLeft]
  interval_cases i <;> simp

/-! ## Loading, then storing -/

theorem lePutU16_leGetU16 {src : List UInt8} (h : 2 ≤ src.length) :
    lePutU16 (leGetU16 src) = src.take 2 := by
  match src, h with
  | a :: b :: rest, _ =>
    simp only [lePutU16,leGetU16,List.getD_cons_zero,List.getD_cons_succ,List.take_succ_cons,
      List.take_zero,List.cons.injEq,and_true]
    refine ⟨?_,?_⟩ <;>
    · apply UInt8.toBitVec_inj.mp
      apply BitVec.eq_of_getLsbD_eq
      intro i hi
      interval_cases i <;> simp

theorem lePutU32_leGetU32 {src : List UInt8} (h : 4 ≤ src.length) :
    lePutU32 (leGetU32 src) = src.take 4 := by
  match src, h with
  | a :: b :: c :: d :: rest, _ =>
    simp only [lePutU32,leGetU32,List.getD_cons_zero,List.getD_cons_succ,List.take_succ_cons,
      List.take_zero,List.cons.injEq,and_true]
    refine ⟨?_,?_,?_,?_⟩ <;>
    · apply UInt8.toBitVec_inj.mp
      apply BitVec.eq_of_getLsbD_eq
      intro i hi
      rw [UInt32.toBitVec_toUInt8]
      interval_cases i <;> simp

end MucOpcua
