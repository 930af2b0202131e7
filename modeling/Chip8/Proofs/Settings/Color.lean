import Chip8.Proofs.Numeral
import Chip8.Proofs.Settings

/-!
# Colours that have been accepted

A colour in a settings file is a list of three integers, which are checked to be bytes, or a text of
seven characters, `#` and three pairs that are read as hexadecimal numerals. A pair of digits is a
byte as well. But a numeral may have a sign or a blank in front, or a blank behind, and then there
is a single digit: `readNumeral_pair_iff` says exactly which pairs are read, and as what.
`readColor_text_iff` and `readColor_items_iff` are the two ways of giving a colour, and
`readColor_real` says what an accepted colour is.
-/

namespace Chip8

namespace Numeral

variable {a b : Char} {n : Int}

/-! ## Pairs of characters -/

/-- The numerals of two characters in base sixteen, and what they stand for. -/
inductive ReadsPair (a b : Char) : Int → Prop
  | digits {x y : Nat} (hx : digitValue 16 a = some x) (hy : digitValue 16 b = some y) :
      ReadsPair a b (16 * x + y)
  | plus {y : Nat} (ha : a = '+') (hy : digitValue 16 b = some y) : ReadsPair a b y
  | minus {y : Nat} (ha : a = '-') (hy : digitValue 16 b = some y) : ReadsPair a b (-y)
  | blankBefore {y : Nat} (ha : Text.isAsciiBlank a = true) (hy : digitValue 16 b = some y) :
      ReadsPair a b y
  | blankAfter {x : Nat} (hx : digitValue 16 a = some x) (hb : Text.isAsciiBlank b = true) :
      ReadsPair a b x

theorem digitValue_lt {base d : Nat} {c : Char} (h : digitValue base c = some d) : d < base := by
  unfold digitValue at h
  obtain ⟨-, hlt⟩ := Option.filter_eq_some_iff.mp h
  exact of_decide_eq_true hlt

/-- A property of all characters of ASCII, one after the other. -/
theorem forall_ascii {p : Char → Prop} (h : ∀ code < 128, p (Char.ofNat code)) (c : Char)
    (hc : c.toNat < 128) : p c := by
  have hp := h c.toNat hc
  rwa [Char.ofNat_toNat] at hp

theorem ascii_of_digitValue {base d : Nat} {c : Char} (h : digitValue base c = some d) :
    c.toNat < 128 := by
  refine Nat.lt_of_not_le fun hge => ?_
  obtain ⟨hvalue, -⟩ := Option.filter_eq_some_iff.mp h
  unfold charValue at hvalue
  simp only [Bool.and_eq_true, decide_eq_true_eq] at hvalue
  rw [if_neg (by omega), if_neg (by omega), if_neg (by omega)] at hvalue
  cases hvalue

/-- A digit is not taken for anything else that a numeral may contain. -/
theorem ne_of_digitValue {d : Nat} {c : Char} (h : digitValue 16 c = some d) :
    c ≠ '+' ∧ c ≠ '-' ∧ c ≠ '_' ∧ c.toLower ≠ 'x' ∧ Text.isAsciiBlank c = false := by
  have hall : ∀ code < 128, (digitValue 16 (Char.ofNat code)).isSome = true →
      Char.ofNat code ≠ '+' ∧ Char.ofNat code ≠ '-' ∧ Char.ofNat code ≠ '_' ∧
        (Char.ofNat code).toLower ≠ 'x' ∧
        Text.isAsciiBlank (Char.ofNat code) = false := by
    decide +kernel
  exact forall_ascii (p := fun c => (digitValue 16 c).isSome = true → c ≠ '+' ∧ c ≠ '-' ∧ c ≠ '_' ∧
    c.toLower ≠ 'x' ∧
    Text.isAsciiBlank c = false) hall c (ascii_of_digitValue h) (by rw [h]; rfl)

theorem readDigits_cons (base value : Nat) (afterDigit : Bool) {c : Char} {d : Nat}
    (rest : List Char) (h : digitValue base c = some d) (hc : c ≠ '_') :
    readDigits base value afterDigit (c :: rest) =
      readDigits base (value * base + d) true rest := by
  rw [readDigits, if_neg (fun heq => hc (eq_of_beq heq)), h]

/-- A single character is a digit, or nothing. -/
theorem readDigits_single (value : Nat) (afterDigit : Bool) (c : Char) :
    readDigits 16 value afterDigit [c] = (digitValue 16 c).map (value * 16 + ·) := by
  cases hd : digitValue 16 c with
  | some d =>
    rw [readDigits_cons 16 value afterDigit [] hd (ne_of_digitValue hd).2.2.1]
    rfl
  | none =>
    rw [readDigits, hd]
    -- An underscore at the end is none either.
    split
    · split
      · rfl
      · rfl
    · rfl

theorem readDigits_pair (a b : Char) :
    readDigits 16 0 false [a, b] = (digitValue 16 a).bind fun x => (digitValue 16 b).map fun y =>
      16 * x + y := by
  cases hx : digitValue 16 a with
  | some x =>
    have hvalue : (fun y => 16 * x + y) = ((0 * 16 + x) * 16 + ·) := by
      funext y
      omega
    rw [readDigits_cons 16 0 false [b] hx (ne_of_digitValue hx).2.2.1, readDigits_single,
      Option.bind_some, hvalue]
  | none =>
    rw [readDigits, hx]
    split
    · rfl
    · rfl

/-- The mark of a base takes both characters, and none is left for the digits behind it. -/
theorem readDigits_dropMark (a b : Char) :
    readDigits 16 0 false (dropMark 16 [a, b]) =
      (digitValue 16 a).bind fun x => (digitValue 16 b).map fun y => 16 * x + y := by
  by_cases hmark : a = '0' ∧ b.toLower = 'x'
  · obtain ⟨rfl, hx⟩ := hmark
    have hb : digitValue 16 b = none := by
      cases hd : digitValue 16 b with
      | none => rfl
      | some d => exact absurd hx (ne_of_digitValue hd).2.2.2.1
    rw [dropMark, hx, hb]
    rfl
  · rw [← readDigits_pair]
    congr 1
    unfold dropMark
    split
    next heq =>
      cases heq
      rw [if_neg]
      intro hletter
      exact hmark ⟨rfl, (Option.some.inj (eq_of_beq hletter)).symm⟩
    next => rfl

/-- Blanks are taken off at both ends. -/
theorem trimList_pair {α : Type} (drop : α → Bool) (a b : α) :
    Text.trimList drop [a, b] = [a, b].filter (!drop ·) := by
  unfold Text.trimList
  cases ha : drop a with
  | true =>
    cases hb : drop b with
    | true => simp [ha, hb]
    | false => simp [ha, hb]
  | false =>
    cases hb : drop b with
    | true => simp [ha, hb]
    | false => simp [ha, hb]

/-- What is left of a numeral without its blanks. -/
def trimmed (cs : List Char) : Option Int :=
  let (negative, body) := splitSign cs
  (readDigits 16 0 false (dropMark 16 body)).map fun n => if negative then -(n : Int) else n

theorem trimmed_eq {cs body : List Char} {negative : Bool} (h : splitSign cs = (negative, body)) :
    trimmed cs = (readDigits 16 0 false (dropMark 16 body)).map fun n : Nat =>
      if negative then -(n : Int) else n := by
  unfold trimmed
  rw [h]
  dsimp only
  cases readDigits 16 0 false (dropMark 16 body) with
  | none => rfl
  | some n => rfl

/-- A single character leaves no room for a mark. -/
theorem readDigits_dropMark_single (c : Char) :
    readDigits 16 0 false (dropMark 16 [c]) = digitValue 16 c := by
  have hdrop : dropMark 16 [c] = [c] := by
    unfold dropMark
    split
    next heq => cases heq
    next => rfl
  have hvalue : (0 * 16 + · : Nat → Nat) = id := by
    funext y
    show 0 * 16 + y = y
    omega
  rw [hdrop, readDigits_single, hvalue, Option.map_id, id]

theorem trimmed_minus (b : Char) :
    trimmed ['-', b] = (digitValue 16 b).map fun y : Nat => -(y : Int) := by
  have hsplit : splitSign ['-', b] = (true, [b]) := rfl
  rw [trimmed_eq hsplit, readDigits_dropMark_single]
  rfl

theorem trimmed_plus (b : Char) :
    trimmed ['+', b] = (digitValue 16 b).map fun y : Nat => (y : Int) := by
  have hsplit : splitSign ['+', b] = (false, [b]) := rfl
  rw [trimmed_eq hsplit, readDigits_dropMark_single]
  rfl

theorem trimmed_single (c : Char) :
    trimmed [c] = (digitValue 16 c).map fun y : Nat => (y : Int) := by
  by_cases hsign : c = '-' ∨ c = '+'
  · -- A sign alone is no numeral.
    rcases hsign with rfl | rfl
    · rfl
    · rfl
  · have hsplit : splitSign [c] = (false, [c]) := splitSign_of_forall fun c' hc' => by
      rw [List.mem_singleton.mp hc']
      exact not_or.mp hsign
    rw [trimmed_eq hsplit, readDigits_dropMark_single]
    rfl

/-- Without a sign in front, both characters have to be digits. -/
theorem trimmed_pair (hminus : a ≠ '-') (hplus : a ≠ '+') :
    trimmed [a, b] =
      (digitValue 16 a).bind fun x => (digitValue 16 b).map fun y : Nat =>
        (16 * (x : Int) + (y : Int)) := by
  have hsplit : splitSign [a, b] = (false, [a, b]) := by
    unfold splitSign
    split
    next heq =>
      cases heq
      exact absurd rfl hminus
    next heq =>
      cases heq
      exact absurd rfl hplus
    next => rfl
  rw [trimmed_eq hsplit, readDigits_dropMark]
  cases digitValue 16 a with
  | none => rfl
  | some x =>
    cases digitValue 16 b with
    | none => rfl
    | some y => rfl

/-- **A numeral of two characters** is read exactly if it is one of these. -/
theorem read?_eq_some_iff {t : Text} (h : normalize t = [a, b]) :
    read? 16 t = some n ↔ ReadsPair a b n := by
  have hread : read? 16 t = trimmed ([a, b].filter (!Text.isAsciiBlank ·)) := by
    rw [← trimList_pair, ← h]
    rfl
  rw [hread]
  constructor
  · intro hn
    cases ha : Text.isAsciiBlank a with
    | true =>
      cases hb : Text.isAsciiBlank b with
      | true =>
        simp only [List.filter, ha, hb] at hn
        cases hn
      | false =>
        simp only [List.filter, ha, hb, Bool.not_true, Bool.not_false, trimmed_single] at hn
        obtain ⟨y, hy, rfl⟩ := Option.map_eq_some_iff.mp hn
        exact .blankBefore ha hy
    | false =>
      cases hb : Text.isAsciiBlank b with
      | true =>
        simp only [List.filter, ha, hb, Bool.not_true, Bool.not_false, trimmed_single] at hn
        obtain ⟨x, hx, rfl⟩ := Option.map_eq_some_iff.mp hn
        exact .blankAfter hx hb
      | false =>
        simp only [List.filter, ha, hb, Bool.not_false] at hn
        by_cases hminus : a = '-'
        · rw [hminus, trimmed_minus] at hn
          obtain ⟨y, hy, rfl⟩ := Option.map_eq_some_iff.mp hn
          exact .minus hminus hy
        · by_cases hplus : a = '+'
          · rw [hplus, trimmed_plus] at hn
            obtain ⟨y, hy, rfl⟩ := Option.map_eq_some_iff.mp hn
            exact .plus hplus hy
          · rw [trimmed_pair hminus hplus] at hn
            obtain ⟨x, hx, hn⟩ := Option.bind_eq_some_iff.mp hn
            obtain ⟨y, hy, rfl⟩ := Option.map_eq_some_iff.mp hn
            exact .digits hx hy
  · -- A digit is neither a blank nor a sign.
    intro hn
    cases hn with
    | digits hx hy =>
      obtain ⟨hplus, hminus, -, -, ha⟩ := ne_of_digitValue hx
      obtain ⟨-, -, -, -, hb⟩ := ne_of_digitValue hy
      simp only [List.filter, ha, hb, Bool.not_false]
      rw [trimmed_pair hminus hplus, hx, hy]
      rfl
    | plus ha hy =>
      obtain ⟨-, -, -, -, hb⟩ := ne_of_digitValue hy
      subst ha
      simp only [List.filter, show Text.isAsciiBlank '+' = false from rfl, hb, Bool.not_false]
      rw [trimmed_plus, hy]
      rfl
    | minus ha hy =>
      obtain ⟨-, -, -, -, hb⟩ := ne_of_digitValue hy
      subst ha
      simp only [List.filter, show Text.isAsciiBlank '-' = false from rfl, hb, Bool.not_false]
      rw [trimmed_minus, hy]
      rfl
    | blankBefore ha hy =>
      obtain ⟨-, -, -, -, hb⟩ := ne_of_digitValue hy
      simp only [List.filter, ha, hb, Bool.not_true, Bool.not_false]
      rw [trimmed_single, hy]
      rfl
    | blankAfter hx hb =>
      obtain ⟨-, -, -, -, ha⟩ := ne_of_digitValue hx
      simp only [List.filter, ha, hb, Bool.not_true, Bool.not_false]
      rw [trimmed_single, hx]
      rfl

end Numeral

/-! ## Colours -/

/-- Whether the parts of a colour are bytes. -/
def Color.IsReal (c : Color) : Prop :=
  (0 ≤ c.red ∧ c.red ≤ 255) ∧ (0 ≤ c.green ∧ c.green ≤ 255) ∧ (0 ≤ c.blue ∧ c.blue ≤ 255)

/-- What a pair in the text of a colour is read as. -/
def ReadsAs (p q : CodePoint) (n : Int) : Prop :=
  ∃ a b, Numeral.normalize [p, q] = [a, b] ∧ Numeral.ReadsPair a b n

/-- What a pair in the text of a colour should be: two hexadecimal digits, and what they
stand for. -/
def IsHex (p q : CodePoint) (n : Int) : Prop :=
  ∃ a b x y, p = .char a ∧ q = .char b ∧ Numeral.digitValue 16 a = some x ∧
    Numeral.digitValue 16 b = some y ∧
    n = 16 * (x : Nat) + (y : Nat)

/-- Whether a text is `#` and three pairs that stand for the parts of a colour. -/
def Color.Written (pair : CodePoint → CodePoint → Int → Prop) (t : Text) (c : Color) : Prop :=
  ∃ p q p' q' p'' q'', t = [.char '#', p, q, p', q', p'', q''] ∧ pair p q c.red ∧
    pair p' q' c.green ∧
    pair p'' q'' c.blue

variable {p q : CodePoint} {n : Int}

/-- Two digits are read as what they stand for. -/
theorem IsHex.readsAs (h : IsHex p q n) : ReadsAs p q n := by
  obtain ⟨a, b, x, y, rfl, rfl, hx, hy, rfl⟩ := h
  refine ⟨a, b, ?_, .digits hx hy⟩
  have hplain : ([.char a, .char b] : Text).all (·.toNat < 128) = true := by
    have ha := Numeral.ascii_of_digitValue hx
    have hb := Numeral.ascii_of_digitValue hy
    simp [CodePoint.toNat, ha, hb]
  unfold Numeral.normalize
  dsimp only
  rw [hplain]
  rfl

/-- Two digits are a byte. -/
theorem IsHex.byte (h : IsHex p q n) : 0 ≤ n ∧ n ≤ 255 := by
  obtain ⟨a, b, x, y, -, -, hx, hy, rfl⟩ := h
  have hx := Numeral.digitValue_lt hx
  have hy := Numeral.digitValue_lt hy
  omega

/-- What six digits stand for is a colour. -/
theorem isReal_of_isHex {c : Color} {t : Text} (h : c.Written IsHex t) : c.IsReal := by
  obtain ⟨_, _, _, _, _, _, -, hred, hgreen, hblue⟩ := h
  exact ⟨hred.byte, hgreen.byte, hblue.byte⟩

namespace Settings

variable {d : Data} {c : Color} {t : Text}

theorem readNumeral_pair_iff : readNumeral 16 [p, q] = .ok n ↔ ReadsAs p q n := by
  obtain ⟨a, b, hchars⟩ : ∃ a b, Numeral.normalize [p, q] = [a, b] := ⟨_, _, rfl⟩
  have hreads : ReadsAs p q n ↔ Numeral.ReadsPair a b n := by
    constructor
    · rintro ⟨a', b', hchars', h⟩
      rw [hchars] at hchars'
      cases hchars'
      exact h
    · exact fun h => ⟨a, b, hchars, h⟩
  rw [hreads, ← Numeral.read?_eq_some_iff hchars, ← Numeral.read_eq_ok_iff]
  exact mapError_eq_ok_iff

/-- **The text of a colour** is accepted exactly if all its pairs are read. -/
theorem readColor_text_iff (h : d.value = .text t) : readColor d = .ok c ↔ c.Written ReadsAs t := by
  have hitems : d.items? = none := by
    unfold Data.items? Data.collection?
    rw [h]
  unfold readColor
  rw [h, hitems]
  split
  next p q p' q' p'' q'' heq =>
    cases heq
    constructor
    · intro hread
      obtain ⟨red, hred, hread⟩ := bind_eq_ok_iff.mp hread
      obtain ⟨green, hgreen, hread⟩ := bind_eq_ok_iff.mp hread
      obtain ⟨blue, hblue, hread⟩ := bind_eq_ok_iff.mp hread
      cases hread
      exact ⟨p, q, p', q', p'', q'', rfl, readNumeral_pair_iff.mp hred,
        readNumeral_pair_iff.mp hgreen,
        readNumeral_pair_iff.mp hblue⟩
    · rintro ⟨_, _, _, _, _, _, heq, hred, hgreen, hblue⟩
      cases heq
      rw [readNumeral_pair_iff.mpr hred, readNumeral_pair_iff.mpr hgreen,
        readNumeral_pair_iff.mpr hblue]
      rfl
  next heq _ => cases heq
  next hshape _ =>
    constructor
    · intro hread
      cases hread
    · rintro ⟨_, _, _, _, _, _, rfl, -⟩
      exact absurd rfl (hshape _ _ _ _ _ _)

/-- `#` and six hexadecimal digits are always accepted, for what they stand for. -/
theorem readColor_of_isHex (h : d.value = .text t) (hc : c.Written IsHex t) :
    readColor d = .ok c := by
  obtain ⟨p, q, p', q', p'', q'', ht, hred, hgreen, hblue⟩ := hc
  exact (readColor_text_iff h).mpr ⟨p, q, p', q', p'', q'', ht, hred.readsAs, hgreen.readsAs,
    hblue.readsAs⟩

theorem readParts_iff {r g b : Data} :
    readParts d r g b = .ok c ↔
      readInt r = .ok c.red ∧ readInt g = .ok c.green ∧ readInt b = .ok c.blue ∧ c.IsReal := by
  have hall : ∀ red green blue : Int, [red, green, blue].all (fun n => 0 ≤ n && n ≤ 255) = true ↔
      Color.IsReal ⟨red, green, blue⟩ := by
    intro red green blue
    simp [Color.IsReal]
  constructor
  · intro hread
    obtain ⟨red, hred, hread⟩ := bind_eq_ok_iff.mp hread
    obtain ⟨green, hgreen, hread⟩ := bind_eq_ok_iff.mp hread
    obtain ⟨blue, hblue, hread⟩ := bind_eq_ok_iff.mp hread
    split at hread
    next hreal =>
      cases hread
      exact ⟨hred, hgreen, hblue, (hall red green blue).mp hreal⟩
    next => cases hread
  · rintro ⟨hred, hgreen, hblue, hreal⟩
    refine bind_eq_ok_iff.mpr ⟨_, hred,
      bind_eq_ok_iff.mpr ⟨_, hgreen, bind_eq_ok_iff.mpr ⟨_, hblue, ?_⟩⟩⟩
    rw [if_pos ((hall _ _ _).mpr hreal)]

/-- **A list** is accepted exactly if it has three integers, which are bytes. -/
theorem readColor_items_iff (h : ∀ t, d.value ≠ .text t) :
    readColor d = .ok c ↔ ∃ r g b, d.items? = some [r, g, b] ∧
      readInt r = .ok c.red ∧ readInt g = .ok c.green ∧ readInt b = .ok c.blue ∧ c.IsReal := by
  unfold readColor
  split
  next heq => exact absurd heq (h _)
  next r g b hitems _ =>
    rw [hitems, readParts_iff]
    constructor
    · exact fun hread => ⟨r, g, b, rfl, hread⟩
    · rintro ⟨r', g', b', heq, hread⟩
      cases heq
      exact hread
  next _ hshape =>
    constructor
    · intro hread
      cases hread
    · rintro ⟨r, g, b, hitems, -⟩
      exact absurd hitems (hshape r g b)

/-- **Accepted colours are real**: their parts are bytes, and a text is `#` and six hexadecimal
digits that stand for them, unless some pair of the text is a digit with a sign or a blank, or has
digits of another script. What is not accepted is refused with an error that can be explained,
unless it is too deep to be written. -/
theorem readColor_real [NestingLimits] (d : Data) :
    (∃ c, readColor d = .ok c ∧
      ((c.IsReal ∧ ∀ t, d.value = .text t → c.Written IsHex t) ∨
        ∃ t, d.value = .text t ∧ ¬ c.Written IsHex t ∧ c.Written ReadsAs t)) ∨
    (∃ e, readColor d = .error e ∧ (e.isExplained = true ∨ ∃ inner, d.Holds inner ∧
      inner.Deep)) := by
  have hyields := yields_readColor (d := d) .itself
  cases hread : readColor d with
  | error e =>
    rw [hread] at hyields
    exact .inr ⟨e, rfl, hyields⟩
  | ok c =>
    refine .inl ⟨c, rfl, ?_⟩
    by_cases htext : ∃ t, d.value = .text t
    · obtain ⟨t, ht⟩ := htext
      have hwritten := (readColor_text_iff ht).mp hread
      by_cases hhex : c.Written IsHex t
      · refine .inl ⟨isReal_of_isHex hhex, fun t' ht' => ?_⟩
        rw [ht] at ht'
        cases ht'
        exact hhex
      · exact .inr ⟨t, ht, hhex, hwritten⟩
    · have hitems := (readColor_items_iff fun t ht => htext ⟨t, ht⟩).mp hread
      obtain ⟨_, _, _, -, -, -, -, hreal⟩ := hitems
      exact .inl ⟨hreal, fun t ht => absurd ⟨t, ht⟩ htext⟩

/-- A minus sign makes a part of a colour negative. -/
theorem readColor_negative :
    ∃ c, readColor ⟨#[], .text (Text.ofString "#-1-1-1")⟩ = .ok c ∧ ¬ c.IsReal :=
  ⟨⟨-1, -1, -1⟩, rfl, by unfold Color.IsReal; decide⟩

end Settings

end Chip8
