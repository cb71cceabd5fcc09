import CoherentTasks.Spelling
import Mathlib.Algebra.Group.Nat.Defs
import Mathlib.Data.List.TakeWhile
import Mathlib.Order.Basic

/-!
# Spellings of devices

What is read as a device: a platform under any of its names, a colon, and a
decimal numeral, with blanks around both parts. Among the texts that are read as
a device is its name, so that every device can be read back, and different
devices have different names.
-/

namespace CoherentTasks

namespace Text

def IsDigit (character : Char) : Prop :=
  '0' ≤ character ∧ character ≤ '9'

instance (character : Char) : Decidable (IsDigit character) :=
  inferInstanceAs (Decidable (_ ∧ _))

/-- The characters write a number in decimal: there are digits, at least one,
and at most a plus sign before them. -/
def Numeral (characters : List Char) (value : Nat) : Prop :=
  ∃ digits, (characters = digits ∨ characters = '+' :: digits) ∧ digits ≠ [] ∧
    (∀ digit ∈ digits, IsDigit digit) ∧ value = Nat.ofDigitChars 10 digits 0

private theorem not_isDigit_plus : ¬ IsDigit '+' := by decide

/-- Further digits make a number no smaller. -/
private theorem le_ofDigitChars (digits : List Char) (value : Nat) :
    value ≤ Nat.ofDigitChars 10 digits value := by
  induction digits generalizing value with
  | nil => exact Nat.le_refl value
  | cons digit digits induction =>
      rw [Nat.ofDigitChars_cons]
      exact le_trans (by omega) (induction _)

private theorem readDigits_eq_ok_iff {limit value result : Nat}
    {digits : List Char} (small : value < limit) :
    readDigits limit value digits = .ok result ↔
      (∀ digit ∈ digits, IsDigit digit) ∧
      result = Nat.ofDigitChars 10 digits value ∧ result < limit := by
  induction digits generalizing value with
  | nil =>
      simp only [readDigits, Except.ok.injEq, Nat.ofDigitChars_nil,
        List.not_mem_nil, false_imp_iff, implies_true, true_and]
      constructor
      · rintro rfl
        exact ⟨rfl, small⟩
      · exact fun same => same.1.symm
  | cons digit digits induction =>
      rw [List.forall_mem_cons, Nat.ofDigitChars_cons]
      simp only [readDigits]
      by_cases isDigit : IsDigit digit
      · have known : digitValue? digit = some (digit.toNat - '0'.toNat) :=
          if_pos isDigit
        simp only [known, isDigit, true_and]
        split
        · rename_i fits
          exact induction fits
        · rename_i large
          refine iff_of_false nofun fun read => large ?_
          exact lt_of_le_of_lt (le_ofDigitChars digits _) (read.2.1 ▸ read.2.2)
      · have unknown : digitValue? digit = none := if_neg isDigit
        simp only [unknown]
        exact iff_of_false nofun fun read => isDigit read.1.1

private theorem numeral_signed_iff {digits : List Char} {value : Nat} :
    Numeral ('+' :: digits) value ↔
      digits ≠ [] ∧ (∀ digit ∈ digits, IsDigit digit) ∧
      value = Nat.ofDigitChars 10 digits 0 := by
  constructor
  · intro written
    obtain ⟨others, shape, some, allDigits, isValue⟩ := written
    rcases shape with rfl | signed
    · exact absurd (allDigits '+' List.mem_cons_self) not_isDigit_plus
    · obtain rfl := (List.cons.inj signed).2
      exact ⟨some, allDigits, isValue⟩
  · exact fun written => ⟨digits, .inr rfl, written⟩

private theorem numeral_unsigned_iff {digits : List Char} {value : Nat}
    (unsigned : ∀ others, digits ≠ '+' :: others) :
    Numeral digits value ↔ digits ≠ [] ∧ (∀ digit ∈ digits, IsDigit digit) ∧
      value = Nat.ofDigitChars 10 digits 0 := by
  constructor
  · intro written
    obtain ⟨others, shape, written⟩ := written
    rcases shape with rfl | signed
    · exact written
    · exact absurd signed (unsigned others)
  · exact fun written => ⟨digits, .inl rfl, written⟩

theorem readNumeral_eq_ok_iff {limit value : Nat} {characters : List Char}
    (positive : 0 < limit) :
    readNumeral limit characters = .ok value ↔
      Numeral characters value ∧ value < limit := by
  unfold readNumeral
  split
  · rw [numeral_unsigned_iff fun _ => (List.cons_ne_nil _ _).symm]
    exact iff_of_false nofun fun written => written.1.1 rfl
  · rw [numeral_signed_iff]
    exact iff_of_false nofun fun written => written.1.1 rfl
  · rename_i digits nonempty
    rw [readDigits_eq_ok_iff positive, numeral_signed_iff,
      and_iff_right nonempty, and_assoc]
  · rename_i nonempty _ unsigned
    rw [readDigits_eq_ok_iff positive, numeral_unsigned_iff unsigned,
      and_iff_right nonempty, and_assoc]

theorem isDigit_of_mem_toDigits {value : Nat} {character : Char}
    (member : character ∈ Nat.toDigits 10 value) : IsDigit character := by
  have isDigit :=
    Nat.isDigit_of_mem_toDigits (by decide) (Nat.le_refl 10) member
  simp only [Char.isDigit, Bool.and_eq_true, decide_eq_true_eq] at isDigit
  exact isDigit

/-- The decimal digits of a number write it. -/
theorem numeral_toDigits (value : Nat) :
    Numeral (Nat.toDigits 10 value) value :=
  ⟨Nat.toDigits 10 value, .inl rfl, Nat.toDigits_ne_nil,
    fun _ => isDigit_of_mem_toDigits, Nat.ofDigitChars_ten_toDigits.symm⟩

theorem isBlank_of_isDigit {character : Char} (isDigit : IsDigit character) :
    isBlank character = false := by
  obtain ⟨low, high⟩ := isDigit
  have above : 48 ≤ character.toNat := low
  have below : character.toNat ≤ 57 := high
  simp only [isBlank]
  simp
  omega

/-- Text without blanks is not changed by trimming. -/
theorem trimCharacters_of_not_blank {characters : List Char}
    (visible : ∀ character ∈ characters, isBlank character = false) :
    trimCharacters characters = characters := by
  have kept (others : List Char)
      (visible : ∀ character ∈ others, isBlank character = false) :
      others.dropWhile isBlank = others :=
    List.dropWhile_eq_self_iff.mpr
      fun _ => Bool.eq_false_iff.mp (visible _ (List.getElem_mem _))
  simp only [trimCharacters]
  rw [kept characters visible, kept characters.reverse, List.reverse_reverse]
  exact fun character member => visible character (List.mem_reverse.mp member)

end Text

namespace Platform

/-- Every text that names a platform, once it is trimmed and in lower case. -/
def names : Platform → List String
  | .host => ["host", "omp", "cpu"]
  | .cuda => ["cuda"]
  | .hip => ["hip"]
  | .levelZero => ["level_zero", "ze"]

private theorem ofName?_eq_some_iff {folded : String} {platform : Platform} :
    ofName? folded = some platform ↔ folded ∈ platform.names := by
  unfold ofName?
  split <;> cases platform <;> simp_all [names]

theorem parse_eq_ok_iff {text : String} {platform : Platform} :
    parse text = .ok platform ↔
      Text.lowercase (Text.trim text) ∈ platform.names := by
  rw [← ofName?_eq_some_iff]
  simp only [parse]
  cases ofName? (Text.lowercase (Text.trim text)) <;> simp

theorem parse_name (platform : Platform) :
    parse platform.name = .ok platform := by
  cases platform <;> decide

end Platform

namespace Device

/-- The text stands for the device with the number, although no device may have
so large a number: what comes before the first colon names the platform, and
what comes behind it writes the number. -/
def Spells (text : String) (platform : Platform) (number : Nat) : Prop :=
  ∃ left right : String, text = left ++ ":" ++ right ∧ ':' ∉ left.toList ∧
    Text.lowercase (Text.trim left) ∈ platform.names ∧
    Text.Numeral (Text.trim right).toList number

/-- A text is divided at its first colon. -/
private theorem parse_append_eq_ok_iff {left right : String}
    (first : ':' ∉ left.toList) {device : Device} :
    parse (left ++ ":" ++ right) = .ok device ↔
      Platform.parse left = .ok device.platform ∧
      Text.readNumeral indexLimit (Text.trim right).toList =
        .ok device.index.toNat := by
  have characters :
      (left ++ ":" ++ right).toList = left.toList ++ ':' :: right.toList := by
    simp
  have before (character : Char) (member : character ∈ left.toList) :
      decide (character ≠ ':') = true :=
    decide_eq_true fun same => first (same ▸ member)
  have front :
      (left ++ ":" ++ right).toList.takeWhile (· ≠ ':') = left.toList := by
    rw [characters, List.takeWhile_append_of_pos before]
    simp
  have back :
      (left ++ ":" ++ right).toList.dropWhile (· ≠ ':') =
        ':' :: right.toList := by
    rw [characters, List.dropWhile_append_of_pos before]
    simp
  simp only [parse]
  rw [front, back]
  simp only [String.ofList_toList, Text.trim, String.toList_ofList]
  cases platform : Platform.parse left with
  | error cause => exact iff_of_false nofun fun parsed => nomatch parsed.1
  | ok named =>
      cases read :
        Text.readNumeral indexLimit (Text.trimCharacters right.toList) with
      | error cause => exact iff_of_false nofun fun parsed => nomatch parsed.2
      | ok number =>
          have small : number < UInt32.size :=
            ((Text.readNumeral_eq_ok_iff (by decide)).mp read).2
          constructor
          · rintro ⟨⟩
            exact ⟨rfl, congrArg _ (UInt32.toNat_ofNat_of_lt' small).symm⟩
          · intro parsed
            obtain ⟨⟨⟩, isIndex⟩ := parsed
            cases isIndex
            have same : UInt32.ofNat device.index.toNat = device.index :=
              UInt32.ofNat_toNat
            exact congrArg
              (fun index => Except.ok (Device.mk device.platform index)) same

/-- A text without a colon is not read. -/
private theorem parse_of_no_colon {text : String} (absent : ':' ∉ text.toList) :
    parse text = .error (.missingColon text) := by
  have all : text.toList.dropWhile (· ≠ ':') = [] :=
    List.dropWhile_eq_nil_iff.mpr fun character member =>
      decide_eq_true fun same => absent (same ▸ member)
  simp only [parse]
  rw [all]
  rfl

private theorem exists_colon {text : String} (member : ':' ∈ text.toList) :
    ∃ left right : String, text = left ++ ":" ++ right ∧ ':' ∉ left.toList := by
  obtain ⟨front, back, divided, first⟩ := List.eq_append_cons_of_mem member
  refine ⟨String.ofList front, String.ofList back, ?_,
    by rwa [String.toList_ofList]⟩
  rw [← String.toList_inj, divided]
  simp

theorem parse_eq_ok_iff {text : String} {device : Device} :
    parse text = .ok device ↔
      Spells text device.platform device.index.toNat := by
  have small : device.index.toNat < indexLimit := device.index.toNat_lt
  constructor
  · intro parsed
    by_cases member : ':' ∈ text.toList
    · obtain ⟨left, right, rfl, first⟩ := exists_colon member
      obtain ⟨named, read⟩ := (parse_append_eq_ok_iff first).mp parsed
      exact ⟨left, right, rfl, first, Platform.parse_eq_ok_iff.mp named,
        ((Text.readNumeral_eq_ok_iff (by decide)).mp read).1⟩
    · rw [parse_of_no_colon member] at parsed
      cases parsed
  · intro spells
    obtain ⟨left, right, rfl, first, named, numeral⟩ := spells
    exact (parse_append_eq_ok_iff first).mpr
      ⟨Platform.parse_eq_ok_iff.mpr named,
        (Text.readNumeral_eq_ok_iff (by decide)).mpr ⟨numeral, small⟩⟩

theorem parse_name (device : Device) : parse device.name = .ok device := by
  have first : ':' ∉ device.platform.name.toList := by
    cases device.platform <;> decide
  have digits :
      (toString device.index.toNat).toList =
        Nat.toDigits 10 device.index.toNat :=
    String.toList_ofList
  refine (parse_append_eq_ok_iff first).mpr ⟨Platform.parse_name _, ?_⟩
  refine (Text.readNumeral_eq_ok_iff (by decide)).mpr
    ⟨?_, device.index.toNat_lt⟩
  have numeral := Text.numeral_toDigits device.index.toNat
  rw [Text.trim, String.toList_ofList, digits, Text.trimCharacters_of_not_blank]
  · exact numeral
  · exact fun digit member =>
      Text.isBlank_of_isDigit (Text.isDigit_of_mem_toDigits member)

/-- A text is read exactly if it spells a device with a number below 2 ^ 32, and
what is read is that device. The name of every device is read as the device, so
that no two devices have the same name. -/
theorem parse_exact :
    (∀ text, (∃ device, parse text = .ok device) ↔
      ∃ platform number, Spells text platform number ∧ number < 2 ^ 32) ∧
    (∀ text device, parse text = .ok device ↔
      Spells text device.platform device.index.toNat) ∧
    (∀ device, parse device.name = .ok device) ∧
    ∀ left right : Device, left.name = right.name ↔ left = right := by
  refine ⟨fun text => ⟨?_, ?_⟩, fun text device => parse_eq_ok_iff, parse_name,
    fun left right => ⟨fun same => ?_, congrArg name⟩⟩
  · intro parsed
    obtain ⟨device, parsed⟩ := parsed
    exact ⟨device.platform, device.index.toNat, parse_eq_ok_iff.mp parsed,
      device.index.toNat_lt⟩
  · intro spelled
    obtain ⟨platform, number, spells, small⟩ := spelled
    refine ⟨⟨platform, UInt32.ofNat number⟩, parse_eq_ok_iff.mpr ?_⟩
    rwa [UInt32.toNat_ofNat_of_lt' small]
  · have parsed := parse_name left
    rw [same, parse_name right] at parsed
    exact (Except.ok.inj parsed).symm

example : parse "\tZe :+0042 " = .ok ⟨.levelZero, 42⟩ := by rfl

end Device

end CoherentTasks
