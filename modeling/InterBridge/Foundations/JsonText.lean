import InterBridge.Foundations.Json
import Mathlib.Data.Nat.Digits.Defs

namespace Foundations
namespace JsonText
set_option autoImplicit true

def digit (d : Nat) : UInt8 := UInt8.ofNat (48 + d)

def printNat (n : Nat) : Bytes :=
  if n = 0 then [48] else ((Nat.digits 10 n).map digit).reverse

def printInt (n : Int) : Bytes :=
  if n < 0 then 45 :: printNat n.natAbs else printNat n.natAbs

/-- Quotes, backslashes and the control characters with a short form are escaped; NUL is written
as a code point; every other byte is written as it is. -/
def escape (b : UInt8) : Bytes :=
  if b = 34 then [92, 34]
  else if b = 92 then [92, 92]
  else if b = 8 then [92, 98]
  else if b = 12 then [92, 102]
  else if b = 10 then [92, 110]
  else if b = 13 then [92, 114]
  else if b = 9 then [92, 116]
  else if b = 0 then [92, 117, 48, 48, 48, 48]
  else [b]

def printString (s : Bytes) : Bytes := 34 :: (s.flatMap escape ++ [34])

mutual

/-- Compact JSON text, without insignificant white space. -/
def print : Json → Bytes
  | .null => ascii "null"
  | .bool b => if b then ascii "true" else ascii "false"
  | .int n => printInt n
  | .float text => text
  | .str s => printString s
  | .arr elements => 91 :: printElements elements
  | .obj members => 123 :: printMembers members

def printElements : List Json → Bytes
  | [] => [93]
  | [v] => print v ++ [93]
  | v :: vs => print v ++ 44 :: printElements vs

def printMembers : List (Bytes × Json) → Bytes
  | [] => [125]
  | [(k, v)] => printString k ++ 58 :: (print v ++ [125])
  | (k, v) :: ms => printString k ++ 58 :: (print v ++ 44 :: printMembers ms)

end

def isDigit (b : UInt8) : Bool := 48 ≤ b && b ≤ 57

def isNumberByte (b : UInt8) : Bool := isDigit b || b ∈ ascii "+-.eE"

def readNat (digits : Bytes) : Nat := digits.foldl (fun n b => 10 * n + (b.toNat - 48)) 0

def readNumber (token : Bytes) : Option Json :=
  match token with
  | [] => none
  | b :: digits =>
    if (b :: digits).all isDigit then some (.int (readNat (b :: digits)))
    else if b = 45 ∧ digits ≠ [] ∧ digits.all isDigit then some (.int (-(readNat digits : Int)))
    else some (.float token)

def parseNumber (text : Bytes) : Option (Json × Bytes) :=
  (readNumber (text.takeWhile isNumberByte)).map fun v => (v, text.dropWhile isNumberByte)

def unescape (b : UInt8) : UInt8 :=
  if b = 98 then 8
  else if b = 102 then 12
  else if b = 110 then 10
  else if b = 114 then 13
  else if b = 116 then 9
  else b

/-- The rest of a string after its opening quote. Of the code point escapes only NUL, the one
the printer writes, is read. -/
def parseString : Bytes → Option (Bytes × Bytes)
  | [] => none
  | 34 :: rest => some ([], rest)
  | 92 :: 117 :: 48 :: 48 :: 48 :: 48 :: rest => (parseString rest).map fun r => (0 :: r.1, r.2)
  | 92 :: b :: rest => (parseString rest).map fun r => (unescape b :: r.1, r.2)
  | b :: rest => (parseString rest).map fun r => (b :: r.1, r.2)

def parseLiteral (word : Bytes) (v : Json) (text : Bytes) : Option (Json × Bytes) :=
  if word.isPrefixOf text then some (v, text.drop word.length) else none

mutual

def parseValue : Nat → Bytes → Option (Json × Bytes)
  | 0, _ => none
  | _ + 1, [] => none
  | fuel + 1, b :: text =>
    if b = 34 then (parseString text).map fun r => (.str r.1, r.2)
    else if b = 91 then
      if text.head? = some 93 then some (.arr [], text.tail)
      else (parseElements fuel text).map fun r => (.arr r.1, r.2)
    else if b = 123 then
      if text.head? = some 125 then some (.obj [], text.tail)
      else (parseMembers fuel text).map fun r => (.obj r.1, r.2)
    else if b = 116 then parseLiteral (ascii "true") (.bool true) (b :: text)
    else if b = 102 then parseLiteral (ascii "false") (.bool false) (b :: text)
    else if b = 110 then parseLiteral (ascii "null") .null (b :: text)
    else parseNumber (b :: text)

def parseElements : Nat → Bytes → Option (List Json × Bytes)
  | 0, _ => none
  | fuel + 1, text =>
    match parseValue fuel text with
    | some (v, 44 :: rest) => (parseElements fuel rest).map fun r => (v :: r.1, r.2)
    | some (v, 93 :: rest) => some ([v], rest)
    | _ => none

def parseMembers : Nat → Bytes → Option (List (Bytes × Json) × Bytes)
  | 0, _ => none
  | fuel + 1, text =>
    match text with
    | 34 :: text =>
      match parseString text with
      | some (k, 58 :: rest) =>
        match parseValue fuel rest with
        | some (v, 44 :: rest) => (parseMembers fuel rest).map fun r => ((k, v) :: r.1, r.2)
        | some (v, 125 :: rest) => some ([(k, v)], rest)
        | _ => none
      | _ => none
    | _ => none

end

/-- The leading value of a text; what follows it is ignored. -/
def parse (text : Bytes) : Option Json := (parseValue (text.length + 1) text).map Prod.fst

theorem digit_toNat (h : d < 10) : (digit d).toNat = 48 + d := by
  rw [digit, UInt8.toNat_ofNat']
  omega

theorem isDigit_digit (h : d < 10) : isDigit (digit d) = true := by
  simp only [isDigit, Bool.and_eq_true, decide_eq_true_eq, UInt8.le_iff_toNat_le, digit_toNat h]
  exact ⟨Nat.le_add_right _ _, Nat.add_le_add_left (Nat.le_of_lt_succ h) 48⟩

theorem printNat_all (n : Nat) : (printNat n).all isDigit = true := by
  unfold printNat
  split
  · rfl
  · rw [List.all_eq_true]
    intro b hb
    obtain ⟨d, hd, rfl⟩ := List.mem_map.mp (List.mem_reverse.mp hb)
    exact isDigit_digit (Nat.digits_lt_base (by decide) hd)

theorem printNat_ne_nil (n : Nat) : printNat n ≠ [] := by
  unfold printNat
  split
  · exact List.cons_ne_nil _ _
  · next hn =>
    intro h
    have h := List.map_eq_nil_iff.mp (List.reverse_eq_nil_iff.mp h)
    exact Nat.digits_ne_nil_iff_ne_zero.mpr hn h

theorem readNat_printNat (n : Nat) : readNat (printNat n) = n := by
  unfold printNat
  split
  · next hn => exact hn.symm
  · have hread : ∀ ds : List Nat, (∀ d ∈ ds, d < 10) →
        readNat (ds.map digit).reverse = Nat.ofDigits 10 ds := by
      intro ds hds
      induction ds with
      | nil => rfl
      | cons d ds ih =>
        have hd := digit_toNat (hds d List.mem_cons_self)
        have ih := ih fun e he => hds e (List.mem_cons_of_mem _ he)
        simp only [readNat, List.foldl_reverse] at ih
        simp only [readNat, List.map_cons, List.foldl_reverse, List.foldr_cons, ih, hd,
          Nat.ofDigits_cons]
        omega
    rw [hread _ fun d hd => Nat.digits_lt_base (by decide) hd, Nat.ofDigits_digits]

theorem readNumber_printInt (n : Int) : readNumber (printInt n) = some (.int n) := by
  have hd := printNat_all n.natAbs
  have hr := readNat_printNat n.natAbs
  have hne := printNat_ne_nil n.natAbs
  unfold printInt
  generalize printNat n.natAbs = bs at hd hr hne
  split
  · have hm : (45 :: bs).all isDigit = false := rfl
    rw [readNumber, if_neg (by rw [hm]; decide), if_pos ⟨rfl, hne, hd⟩, hr]
    congr 2
    omega
  · cases bs with
    | nil => exact absurd rfl hne
    | cons b bs =>
      rw [readNumber, if_pos hd, hr]
      congr 2
      omega

/-- A number ends where its text does: nothing that could extend it follows. -/
def Delimited (rest : Bytes) : Prop := ∀ b ∈ rest.head?, isNumberByte b = false

theorem printInt_numberBytes (n : Int) : ∀ b ∈ printInt n, isNumberByte b = true := by
  intro b hb
  have hall := List.all_eq_true.mp (printNat_all n.natAbs)
  unfold printInt at hb
  split at hb
  · rcases List.mem_cons.mp hb with rfl | hb
    · decide
    · rw [isNumberByte, hall b hb, Bool.true_or]
  · rw [isNumberByte, hall b hb, Bool.true_or]

theorem parseNumber_printInt (n : Int) (hrest : Delimited rest) :
    parseNumber (printInt n ++ rest) = some (.int n, rest) := by
  have hnum := printInt_numberBytes n
  have htake : rest.takeWhile isNumberByte = [] := by
    cases rest with
    | nil => rfl
    | cons b rest => rw [List.takeWhile_cons, hrest b rfl]; rfl
  have hdrop : rest.dropWhile isNumberByte = rest := by
    cases rest with
    | nil => rfl
    | cons b rest => rw [List.dropWhile_cons, hrest b rfl]; rfl
  rw [parseNumber, List.takeWhile_append_of_pos hnum, List.dropWhile_append_of_pos hnum, htake,
    hdrop, List.append_nil, readNumber_printInt, Option.map_some]

theorem parseString_escape (b : UInt8) (rest : Bytes) :
    parseString (escape b ++ rest) = (parseString rest).map fun r => (b :: r.1, r.2) := by
  unfold escape
  split_ifs with h₁ h₂ h₃ h₄ h₅ h₆ h₇ h₈
  all_goals simp_all [parseString, unescape]

theorem parseString_print (s rest : Bytes) :
    parseString (s.flatMap escape ++ 34 :: rest) = some (s, rest) := by
  induction s with
  | nil => rfl
  | cons b s ih =>
    rw [List.flatMap_cons, List.append_assoc, parseString_escape, ih]
    rfl

theorem parseValue_printInt (n : Int) (fuel : Nat) (hrest : Delimited rest) :
    parseValue (fuel + 1) (printInt n ++ rest) = some (.int n, rest) := by
  have hnum := printInt_numberBytes n
  have hparse := parseNumber_printInt n hrest
  cases hp : printInt n with
  | nil =>
    rw [hp] at hparse
    have hr := readNumber_printInt n
    rw [hp] at hr
    cases hr
  | cons b bs =>
    rw [hp] at hparse hnum
    have hb := hnum b List.mem_cons_self
    have hne (c : UInt8) (hc : isNumberByte c = false) : b ≠ c := by
      intro h
      rw [h, hc] at hb
      cases hb
    rw [List.cons_append, parseValue, if_neg (hne 34 (by decide)), if_neg (hne 91 (by decide)),
      if_neg (hne 123 (by decide)), if_neg (hne 116 (by decide)), if_neg (hne 102 (by decide)),
      if_neg (hne 110 (by decide))]
    exact hparse

def ParsesBack (v : Json) : Prop :=
  ∀ fuel rest, (print v).length < fuel → Delimited rest →
    parseValue fuel (print v ++ rest) = some (v, rest)

theorem delimited_cons (b : UInt8) (rest : Bytes) (h : isNumberByte b = false) :
    Delimited (b :: rest) := by
  intro c hc
  cases hc
  exact h

theorem ParsesBack.head_ne (h : ParsesBack v) (rest : Bytes) (hr : Delimited rest) :
    (print v ++ rest).head? ≠ some 93 := by
  intro hhead
  have hv := h ((print v).length + 1) rest (Nat.lt_succ_self _) hr
  have hnum : isNumberByte 93 = false := by decide
  cases hp : print v ++ rest with
  | nil =>
    rw [hp] at hhead
    cases hhead
  | cons c text =>
    rw [hp] at hv hhead
    cases hhead
    simp [parseValue, parseNumber, readNumber, hnum] at hv

theorem parseElements_print (hs : elements ≠ []) (hv : ∀ v ∈ elements, ParsesBack v)
    (hf : (printElements elements).length < fuel) :
    parseElements fuel (printElements elements ++ rest) = some (elements, rest) := by
  induction elements generalizing fuel with
  | nil => exact absurd rfl hs
  | cons v vs ih =>
    have hp := hv v List.mem_cons_self
    cases fuel with
    | zero => cases hf
    | succ fuel =>
      cases vs with
      | nil =>
        simp only [printElements, List.length_append, List.length_singleton] at hf
        rw [printElements, List.append_assoc, List.singleton_append, parseElements,
          hp fuel _ (by omega) (delimited_cons 93 _ (by decide))]
        rfl
      | cons w ws =>
        simp only [printElements, List.length_append, List.length_cons] at hf
        have ih : parseElements fuel (printElements (w :: ws) ++ rest) = some (w :: ws, rest) :=
          ih (List.cons_ne_nil w ws) (fun u hu => hv u (List.mem_cons_of_mem v hu)) (by omega)
        rw [printElements, List.append_assoc, List.cons_append, parseElements,
          hp fuel _ (by omega) (delimited_cons 44 _ (by decide))]
        · simp only [ih, Option.map_some]
        · exact List.cons_ne_nil w ws

theorem parseMembers_print (hs : members ≠ [])
    (hv : ∀ m ∈ members, ParsesBack m.2)
    (hf : (printMembers members).length < fuel) :
    parseMembers fuel (printMembers members ++ rest) = some (members, rest) := by
  induction members generalizing fuel with
  | nil => exact absurd rfl hs
  | cons m ms ih =>
    obtain ⟨k, v⟩ := m
    have hp : ParsesBack v := hv (k, v) List.mem_cons_self
    cases fuel with
    | zero => cases hf
    | succ fuel =>
      cases ms with
      | nil =>
        simp only [printMembers, printString, List.length_append, List.length_cons] at hf
        simp only [printMembers, printString, List.append_assoc, List.cons_append, parseMembers,
          parseString_print, List.nil_append]
        rw [hp fuel _ (by omega) (delimited_cons 125 _ (by decide))]
        rfl
      | cons n ns =>
        simp only [printMembers, printString, List.length_append, List.length_cons] at hf
        have ih : parseMembers fuel (printMembers (n :: ns) ++ rest) = some (n :: ns, rest) :=
          ih (List.cons_ne_nil n ns) (fun u hu => hv u (List.mem_cons_of_mem _ hu)) (by omega)
        simp only [printMembers, printString, List.append_assoc, List.cons_append, parseMembers,
          parseString_print, List.nil_append]
        rw [hp fuel _ (by omega) (delimited_cons 44 _ (by decide))]
        simp only [ih, Option.map_some]

theorem parsesBack_arr (hv : ∀ v ∈ elements, ParsesBack v) : ParsesBack (.arr elements) := by
  intro fuel rest hf hr
  cases fuel with
  | zero => cases hf
  | succ fuel =>
    cases elements with
    | nil => rfl
    | cons v vs =>
      simp only [print, List.length_cons] at hf
      have hhead : (printElements (v :: vs) ++ rest).head? ≠ some 93 := by
        have hp := hv v List.mem_cons_self
        cases vs with
        | nil =>
          rw [printElements, List.append_assoc]
          exact hp.head_ne _ (delimited_cons 93 rest (by decide))
        | cons w ws =>
          rw [printElements, List.append_assoc]
          · exact hp.head_ne _ (delimited_cons 44 _ (by decide))
          · exact List.cons_ne_nil w ws
      rw [print, List.cons_append, parseValue, if_neg (by decide), if_pos rfl, if_neg hhead,
        parseElements_print (List.cons_ne_nil v vs) hv (by omega)]
      rfl

theorem parsesBack_obj (hv : ∀ m ∈ members, ParsesBack m.2) : ParsesBack (.obj members) := by
  intro fuel rest hf hr
  cases fuel with
  | zero => cases hf
  | succ fuel =>
    cases members with
    | nil => rfl
    | cons m ms =>
      simp only [print, List.length_cons] at hf
      have hhead : (printMembers (m :: ms) ++ rest).head? ≠ some 125 := by
        obtain ⟨k, v⟩ := m
        cases ms <;> simp [printMembers, printString]
      rw [print, List.cons_append, parseValue, if_neg (by decide), if_neg (by decide), if_pos rfl,
        if_neg hhead, parseMembers_print (List.cons_ne_nil m ms) hv (by omega)]
      rfl

theorem parsesBack_bool (b : Bool) : ParsesBack (.bool b) := by
  intro fuel rest hf hr
  cases fuel with
  | zero => cases hf
  | succ fuel => cases b <;> rfl

theorem parsesBack_int (n : Int) : ParsesBack (.int n) := by
  intro fuel rest hf hr
  cases fuel with
  | zero => cases hf
  | succ fuel => exact parseValue_printInt n fuel hr

theorem parsesBack_str (s : Bytes) : ParsesBack (.str s) := by
  intro fuel rest hf hr
  cases fuel with
  | zero => cases hf
  | succ fuel =>
    rw [print, printString, List.cons_append, List.append_assoc, parseValue, if_pos rfl,
      List.singleton_append, parseString_print]
    rfl

theorem parsesBack_of_storable (h : v.StorableWithin depth) : ParsesBack v := by
  induction depth generalizing v with
  | zero =>
    cases v with
    | bool b => exact parsesBack_bool b
    | int n => exact parsesBack_int n
    | str s => exact parsesBack_str s
    | _ => exact h.elim
  | succ depth ih =>
    cases v with
    | bool b => exact parsesBack_bool b
    | int n => exact parsesBack_int n
    | str s => exact parsesBack_str s
    | arr elements => exact parsesBack_arr fun v hv => ih (h v hv)
    | obj members => exact parsesBack_obj fun m hm => ih (h.2 m hm)
    | _ => exact h.elim

/-- Printing and parsing a document of strings, integers, booleans, arrays and objects. -/
theorem parse_print (h : v.StorableWithin depth) : parse (print v) = some v := by
  have hp := parsesBack_of_storable h ((print v).length + 1) [] (Nat.lt_succ_self _)
    (fun b hb => by cases hb)
  rw [List.append_nil] at hp
  rw [parse, hp]
  rfl

end JsonText
end Foundations
