import Mathlib.Algebra.Order.BigOperators.Group.List
import Mathlib.Algebra.Order.Ring.Nat
import Mathlib.Data.Nat.Digits.Defs
import Mathlib.Data.List.Basic

/-! Texts a program writes and reads: hexadecimal numbers of a fixed width, decimal numbers, and compact JSON. Sizes
are in bytes of UTF-8. -/
namespace Text

def hexSymbol (n : Nat) : Char := if n < 10 then .ofNat (48 + n) else .ofNat (87 + n)

-- The low `width` digits of `n`, most significant first.
def hex : Nat → Nat → List Char
  | 0,_ => []
  | width + 1,n => hexSymbol (n / 16 ^ width % 16) :: hex width n

@[simp] theorem hexLength (width n : Nat) : (hex width n).length = width := by
  induction width with
  | zero => rfl
  | succ width ih => simp [hex,ih]

theorem hexSymbolInjective {m n} (left : m < 16) (right : n < 16) (same : hexSymbol m = hexSymbol n) : m = n := by
  have all : ∀ i j : Fin 16, hexSymbol i = hexSymbol j → i = j := by decide
  exact Fin.mk.inj_iff.mp (all ⟨m,left⟩ ⟨n,right⟩ same)

theorem hexMod {width m n} (same : hex width m = hex width n) : m % 16 ^ width = n % 16 ^ width := by
  induction width with
  | zero => simp [Nat.mod_one]
  | succ width ih =>
    simp only [hex,List.cons.injEq] at same
    have top := hexSymbolInjective (Nat.mod_lt _ (by decide)) (Nat.mod_lt _ (by decide)) same.1
    rw [pow_succ,Nat.mod_mul,Nat.mod_mul,ih same.2,top]

theorem hexInjective {width m n} (left : m < 16 ^ width) (right : n < 16 ^ width)
    (same : hex width m = hex width n) : m = n := by
  have low := hexMod same
  rwa [Nat.mod_eq_of_lt left,Nat.mod_eq_of_lt right] at low

theorem memHex {width n c} (mem : c ∈ hex width n) : ∃ d < 16, c = hexSymbol d := by
  induction width with
  | zero => cases mem
  | succ width ih =>
    rcases List.mem_cons.mp mem with rfl | rest
    · exact ⟨_,Nat.mod_lt _ (by decide),rfl⟩
    · exact ih rest

/- The hyphenated form of a UUID; without the hyphens it is `hex 32`. -/
def hyphenated (id : Nat) : List Char :=
  let digits := hex 32 id
  digits.take 8 ++ '-' :: ((digits.drop 8).take 4 ++ '-' :: ((digits.drop 12).take 4 ++
    '-' :: ((digits.drop 16).take 4 ++ '-' :: digits.drop 20)))

@[simp] theorem hyphenatedLength (id : Nat) : (hyphenated id).length = 36 := by
  simp [hyphenated]

theorem memHyphenated {id c} (mem : c ∈ hyphenated id) : c = '-' ∨ c ∈ hex 32 id := by
  simp only [hyphenated,List.mem_append,List.mem_cons] at mem
  rcases mem with group | hyphen | group | hyphen | group | hyphen | group | hyphen | group
  · exact .inr (List.mem_of_mem_take group)
  · exact .inl hyphen
  · exact .inr (List.mem_of_mem_drop (List.mem_of_mem_take group))
  · exact .inl hyphen
  · exact .inr (List.mem_of_mem_drop (List.mem_of_mem_take group))
  · exact .inl hyphen
  · exact .inr (List.mem_of_mem_drop (List.mem_of_mem_take group))
  · exact .inl hyphen
  · exact .inr (List.mem_of_mem_drop group)

theorem hexNotHyphen {width n c} (mem : c ∈ hex width n) : c ≠ '-' := by
  obtain ⟨d,small,rfl⟩ := memHex mem
  have all : ∀ d : Fin 16, hexSymbol d ≠ '-' := by decide
  exact all ⟨d,small⟩

theorem hyphenatedDigits (id : Nat) : (hyphenated id).filter (· ≠ '-') = hex 32 id := by
  have digits : ∀ part : List Char, part.Sublist (hex 32 id) → part.filter (· ≠ '-') = part := by
    intro part sub
    refine List.filter_eq_self.mpr fun c mem => decide_eq_true (hexNotHyphen (sub.subset mem))
  have hyphen : ∀ rest : List Char, ('-' :: rest).filter (· ≠ '-') = rest.filter (· ≠ '-') := fun _ => by simp
  have joined : ∀ n k, ((hex 32 id).drop n).take k ++ (hex 32 id).drop (n + k) = (hex 32 id).drop n := by
    intro n k
    rw [← List.drop_drop,List.take_append_drop]
  simp only [hyphenated,List.filter_append,hyphen]
  rw [digits _ (List.take_sublist ..),digits _ ((List.take_sublist ..).trans (List.drop_sublist ..)),
    digits _ ((List.take_sublist ..).trans (List.drop_sublist ..)),
    digits _ ((List.take_sublist ..).trans (List.drop_sublist ..)),digits _ (List.drop_sublist ..),
    joined 16 4,joined 12 4,joined 8 4,List.take_append_drop]

theorem hyphenatedInjective {m n} (left : m < 2 ^ 128) (right : n < 2 ^ 128)
    (same : hyphenated m = hyphenated n) : m = n := by
  have digits := congrArg (List.filter (· ≠ '-')) same
  rw [hyphenatedDigits,hyphenatedDigits] at digits
  exact hexInjective (by omega) (by omega) digits

/- The escapes of a JSON string; every other character stands for itself. -/
def escape (c : Char) : List Char :=
  if c = '\x22' then ['\x5c','\x22']
  else if c = '\x5c' then ['\x5c','\x5c']
  else if c.toNat = 8 then ['\x5c','b']
  else if c.toNat = 9 then ['\x5c','t']
  else if c.toNat = 10 then ['\x5c','n']
  else if c.toNat = 12 then ['\x5c','f']
  else if c.toNat = 13 then ['\x5c','r']
  else if c.toNat < 32 then ['\x5c','u','0','0'] ++ hex 2 c.toNat
  else [c]

def quote (text : String) : String := "\x22" ++ String.ofList (text.toList.flatMap escape) ++ "\x22"

def commaSeparated : List String → String
  | [] => ""
  | [item] => item
  | item :: next :: rest => item ++ "," ++ commaSeparated (next :: rest)

def array (items : List String) : String := "[" ++ commaSeparated items ++ "]"

def object (fields : List (String × String)) : String :=
  "\x7b" ++ commaSeparated (fields.map fun field => quote field.1 ++ ":" ++ field.2) ++ "\x7d"

def optional {α : Type} (name : String) (value : Option α) (write : α → String) : List (String × String) :=
  value.toList.map fun v => (name,write v)

def fieldSize (field : String × String) : Nat := (quote field.1).utf8ByteSize + field.2.utf8ByteSize + 2

/- A text that is neither escaped nor encoded in more than one byte a character. -/
def Plain (chars : List Char) : Prop := ∀ c ∈ chars, escape c = [c] ∧ c.utf8Size = 1

instance plainDecidable (chars : List Char) : Decidable (Plain chars) :=
  List.decidableBAll (fun c => escape c = [c] ∧ c.utf8Size = 1) chars

section Sizes
variable {chars : List Char} {text : String} {items : List String} {bound : Nat}

theorem plainAppend {more} (left : Plain chars) (right : Plain more) : Plain (chars ++ more) := by
  intro c mem
  exact (List.mem_append.mp mem).elim (left c) (right c)

theorem hexPlain (width n : Nat) : Plain (hex width n) := by
  intro c mem
  obtain ⟨d,small,rfl⟩ := memHex mem
  have all : ∀ d : Fin 16, escape (hexSymbol d) = [hexSymbol d] ∧ (hexSymbol d).utf8Size = 1 := by decide
  exact all ⟨d,small⟩

theorem hyphenatedPlain (id : Nat) : Plain (hyphenated id) := by
  intro c mem
  rcases memHyphenated mem with rfl | digit
  · decide
  · exact hexPlain 32 id c digit

theorem decimalPlain (n : Nat) : Plain n.repr.toList := by
  intro c mem
  rw [Nat.toList_repr] at mem
  have digit := Nat.isDigit_of_mem_toDigits (by decide) (by decide) mem
  simp only [Char.isDigit,Bool.and_eq_true,decide_eq_true_eq,ge_iff_le,UInt32.le_iff_toNat_le] at digit
  have low : 48 ≤ c.toNat := digit.1
  have high : c.toNat ≤ 57 := digit.2
  have some : c = Char.ofNat c.toNat := (Char.ofNat_toNat c).symm
  have all : ∀ d : Fin 10, escape (.ofNat (48 + d)) = [.ofNat (48 + d)] ∧ (Char.ofNat (48 + d)).utf8Size = 1 := by
    decide
  have here := all ⟨c.toNat - 48,by omega⟩
  simp only [show 48 + (c.toNat - 48) = c.toNat by omega] at here
  rwa [← some] at here

/- A number below `bound` as an unsigned `FromStr` reads it: at most one `+`, then digits. -/
def parseUnsigned (bound : Nat) (text : List Char) : Option Nat :=
  let digits := if text.head? = some '+' then text.tail else text
  if digits = [] || !digits.all Char.isDigit then none
  else if Nat.ofDigitChars 10 digits 0 < bound then some (Nat.ofDigitChars 10 digits 0)
  else none

theorem decimalDigit {n : Nat} {c} (mem : c ∈ n.repr.toList) : c.isDigit = true := by
  rw [Nat.toList_repr] at mem
  exact Nat.isDigit_of_mem_toDigits (by decide) (by decide) mem

theorem parseUnsignedRepr {n : Nat} (small : n < bound) : parseUnsigned bound n.repr.toList = some n := by
  have unsigned : n.repr.toList.head? ≠ some '+' := by
    intro sign
    cases decimalDigit (List.mem_of_mem_head? sign)
  have digits : n.repr.toList.all Char.isDigit = true := List.all_eq_true.mpr fun c mem => decimalDigit mem
  have value : Nat.ofDigitChars 10 n.repr.toList 0 = n := by
    rw [Nat.toList_repr]
    exact Nat.ofDigitChars_toDigits (by decide) (by decide)
  have nonempty : n.repr.toList ≠ [] := by
    rw [Nat.toList_repr]
    exact Nat.toDigits_ne_nil
  generalize n.repr.toList = text at unsigned digits value nonempty ⊢
  simp [parseUnsigned,unsigned,digits,value,nonempty,small]

theorem decimalInjective {m n : Nat} (same : m.repr.toList = n.repr.toList) : m = n := by
  have left := @parseUnsignedRepr (m + n + 1) m (by omega)
  have right := @parseUnsignedRepr (m + n + 1) n (by omega)
  rw [same,right] at left
  exact (Option.some.inj left).symm

theorem plainSize (plain : Plain chars) : (String.ofList chars).utf8ByteSize = chars.length := by
  induction chars with
  | nil => rfl
  | cons c chars ih =>
    rw [String.ofList_cons,String.utf8ByteSize_append,String.utf8ByteSize_singleton,(plain c List.mem_cons_self).2,
      ih fun d mem => plain d (List.mem_cons_of_mem _ mem),List.length_cons,Nat.add_comm]

theorem plainQuote (plain : Plain chars) : (quote (String.ofList chars)).utf8ByteSize = chars.length + 2 := by
  have kept : chars.flatMap escape = chars := by
    induction chars with
    | nil => rfl
    | cons c chars ih =>
      rw [List.flatMap_cons,(plain c List.mem_cons_self).1,ih fun d mem => plain d (List.mem_cons_of_mem _ mem)]
      rfl
  rw [quote,String.toList_ofList,kept,String.utf8ByteSize_append,String.utf8ByteSize_append,plainSize plain]
  have one : "\x22".utf8ByteSize = 1 := rfl
  omega

theorem decimalSize {n width} (positive : 0 < width) (small : n < 10 ^ width) : n.repr.utf8ByteSize ≤ width := by
  have text := plainSize (decimalPlain n)
  rw [String.ofList_toList] at text
  rw [text,Nat.toList_repr]
  exact (Nat.length_toDigits_le_iff (by decide) positive).mpr small

theorem commaSeparatedSize (items : List String) :
    (commaSeparated items).utf8ByteSize ≤ (items.map fun item => item.utf8ByteSize + 1).sum := by
  fun_induction commaSeparated items with
  | case1 => simp
  | case2 item => simp
  | case3 item next rest ih =>
    have comma : ",".utf8ByteSize = 1 := rfl
    simp only [String.utf8ByteSize_append,List.map_cons,List.sum_cons] at ih ⊢
    omega

theorem arraySize (each : ∀ item ∈ items, item.utf8ByteSize ≤ bound) :
    (array items).utf8ByteSize ≤ items.length * (bound + 1) + 2 := by
  have separated := commaSeparatedSize items
  have total : (items.map fun item => item.utf8ByteSize + 1).sum ≤ items.length * (bound + 1) := by
    have upper := List.sum_le_card_nsmul (items.map fun item => item.utf8ByteSize + 1) (bound + 1)
      (fun size mem => by
        obtain ⟨item,present,rfl⟩ := List.mem_map.mp mem
        exact Nat.succ_le_succ (each item present))
    simpa using upper
  have brackets : "[".utf8ByteSize = 1 ∧ "]".utf8ByteSize = 1 := ⟨rfl,rfl⟩
  simp only [array,String.utf8ByteSize_append]
  omega

theorem objectSize (fields : List (String × String)) :
    (object fields).utf8ByteSize ≤ (fields.map fieldSize).sum + 2 := by
  have separated := commaSeparatedSize (fields.map fun field => quote field.1 ++ ":" ++ field.2)
  have colon : ":".utf8ByteSize = 1 := rfl
  have braces : "\x7b".utf8ByteSize = 1 ∧ "\x7d".utf8ByteSize = 1 := ⟨rfl,rfl⟩
  have same : (fields.map fun field => (quote field.1 ++ ":" ++ field.2).utf8ByteSize + 1) = fields.map fieldSize := by
    refine List.map_congr_left fun field _ => ?_
    simp only [fieldSize,String.utf8ByteSize_append,colon]
    omega
  simp only [List.map_map,Function.comp_def,same] at separated
  simp only [object,String.utf8ByteSize_append]
  omega

theorem optionalSize {α : Type} (name : String) (value : Option α) (write : α → String)
    (each : ∀ v ∈ value, (write v).utf8ByteSize ≤ bound) :
    ((optional name value write).map fieldSize).sum ≤ (quote name).utf8ByteSize + bound + 2 := by
  cases value with
  | none => simp [optional]
  | some v => simpa [optional,fieldSize] using each v rfl

end Sizes
end Text
