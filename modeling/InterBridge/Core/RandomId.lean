import InterBridge.Foundations.Json

namespace InterBridge
open Foundations
set_option autoImplicit true

class IRandomSource (ρ : Type) where
  fill : ρ → (length : Nat) → ρ × Vector UInt8 length

/-- Off the target the hardware source fills the buffer with zeros. -/
abbrev zeroRandom : IRandomSource Unit := ⟨fun _ length => ((), Vector.replicate length 0)⟩

def hexDigit (d : UInt8) : UInt8 := if d < 10 then 48 + d else 87 + d

def hexByte (b : UInt8) : Bytes := [hexDigit (b / 16), hexDigit (b % 16)]

/-- A prefix, a dash and 128 random bits in hexadecimal. -/
def generateHexId [IRandomSource ρ] (random : ρ) (idPrefix : Bytes) : ρ × Bytes :=
  let (random, bytes) := IRandomSource.fill random 16
  (random, idPrefix ++ ascii "-" ++ bytes.toList.flatMap hexByte)

/-- Decimal digits, each from a random byte of its own. -/
def generateNumericCode [IRandomSource ρ] (random : ρ) : (digitCount : Nat) → ρ × Bytes
  | 0 => (random, [])
  | digitCount + 1 =>
    let (random, bytes) := IRandomSource.fill random 1
    let byte : UInt8 := bytes[0]
    let (random, code) := generateNumericCode random digitCount
    (random, (48 + byte % 10) :: code)

theorem generateHexId_ne_nil [IRandomSource ρ] (random : ρ) (idPrefix : Bytes) :
    (generateHexId random idPrefix).2 ≠ [] := by
  apply List.append_ne_nil_of_left_ne_nil
  exact List.append_ne_nil_of_right_ne_nil _ (List.cons_ne_nil _ _)

/-- The buffer after the loop that formats the identifier: each turn prints two digits and a
terminator, which the next turn prints over. -/
def printHex (buffer : Bytes) (i : Nat) : Bytes → Bytes
  | [] => buffer
  | b :: bytes =>
    printHex (((buffer.set (i * 2) (hexDigit (b / 16))).set (i * 2 + 1) (hexDigit (b % 16))).set
      (i * 2 + 2) 0) (i + 1) bytes

theorem take_printed {buffer : Bytes} (h : k + 2 < buffer.length) (high low terminator : UInt8) :
    (((buffer.set k high).set (k + 1) low).set (k + 2) terminator).take (k + 2) =
      buffer.take k ++ [high, low] := by
  apply List.ext_getElem?
  intro j
  simp only [List.getElem?_take, List.getElem?_set, List.getElem?_append, List.length_set,
    List.length_take]
  grind

theorem take_printHex {buffer : Bytes} (bytes : Bytes)
    (h : (i + bytes.length) * 2 < buffer.length) :
    (printHex buffer i bytes).take ((i + bytes.length) * 2) =
      buffer.take (i * 2) ++ bytes.flatMap hexByte := by
  induction bytes generalizing buffer i with
  | nil => rw [printHex, List.flatMap_nil, List.append_nil, List.length_nil, Nat.add_zero]
  | cons b bytes ih =>
    rw [List.length_cons] at h
    have hlength : i + (bytes.length + 1) = i + 1 + bytes.length := by omega
    have hnext : (i + 1) * 2 = i * 2 + 2 := by omega
    rw [printHex, List.length_cons, hlength, ih, hnext, take_printed, List.append_assoc]
    · rfl
    · omega
    · simp only [List.length_set]
      omega

theorem generateHexId_printed [IRandomSource ρ] (random : ρ) (idPrefix : Bytes)
    (buffer : Vector UInt8 33) :
    (generateHexId random idPrefix).2 = idPrefix ++ ascii "-" ++
      (printHex buffer.toList 0 (IRandomSource.fill random 16).2.toList).take 32 := by
  have hlength : (0 + (IRandomSource.fill random 16).2.toList.length) * 2 <
      buffer.toList.length := by
    rw [Vector.length_toList, Vector.length_toList]
    decide
  have hprinted := take_printHex _ hlength
  rw [Vector.length_toList] at hprinted
  rw [hprinted]
  rfl

theorem hexDigit_toNat (h : d < 16) :
    (hexDigit d).toNat = if d.toNat < 10 then 48 + d.toNat else 87 + d.toNat := by
  simp only [hexDigit, UInt8.lt_iff_toNat_lt, UInt8.reduceToNat] at h ⊢
  split
  · simp only [UInt8.toNat_add, UInt8.reduceToNat]
    omega
  · simp only [UInt8.toNat_add, UInt8.reduceToNat]
    omega

theorem hexDigit_injective (ha : a < 16) (hb : b < 16) (h : hexDigit a = hexDigit b) : a = b := by
  have hnat := congrArg UInt8.toNat h
  rw [hexDigit_toNat ha, hexDigit_toNat hb] at hnat
  rw [← UInt8.toNat_inj]
  split at hnat
  · split at hnat
    · omega
    · omega
  · split at hnat
    · omega
    · omega

theorem div_lt_sixteen (b : UInt8) : b / 16 < 16 := by grind

theorem mod_lt_sixteen (b : UInt8) : b % 16 < 16 := by grind

theorem hexByte_injective (h : hexByte a = hexByte b) : a = b := by
  rw [hexByte, hexByte, List.cons.injEq, List.cons.injEq] at h
  have hhigh := hexDigit_injective (div_lt_sixteen a) (div_lt_sixteen b) h.1
  have hlow := hexDigit_injective (mod_lt_sixteen a) (mod_lt_sixteen b) h.2.1
  have hhigh := congrArg UInt8.toNat hhigh
  have hlow := congrArg UInt8.toNat hlow
  rw [UInt8.toNat_div, UInt8.toNat_div] at hhigh
  rw [UInt8.toNat_mod, UInt8.toNat_mod] at hlow
  simp only [UInt8.reduceToNat] at hhigh hlow
  rw [← UInt8.toNat_inj]
  omega

theorem hexBytes_injective {as bs : Bytes} (h : as.flatMap hexByte = bs.flatMap hexByte) :
    as = bs := by
  induction as generalizing bs with
  | nil =>
    cases bs with
    | nil => rfl
    | cons b bs => cases h
  | cons a as ih =>
    cases bs with
    | nil => cases h
    | cons b bs =>
      rw [List.flatMap_cons, List.flatMap_cons] at h
      obtain ⟨hfirst, hrest⟩ := List.append_inj h rfl
      rw [hexByte_injective hfirst, ih hrest]

/-- Identifiers with one prefix differ where the bytes drawn for them do. -/
theorem generateHexId_injective [IRandomSource ρ] [IRandomSource σ] {random : ρ} {random' : σ}
    (h : (generateHexId random idPrefix).2 = (generateHexId random' idPrefix).2) :
    (IRandomSource.fill random 16).2 = (IRandomSource.fill random' 16).2 := by
  rw [← Vector.toList_inj]
  exact hexBytes_injective (List.append_cancel_left h)

end InterBridge
