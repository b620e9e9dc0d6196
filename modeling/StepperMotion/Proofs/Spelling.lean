import Mathlib.Data.List.Chain
import StepperMotion.Json.Token

/-!
# How the words of JSON are spelled

A word may be spelled in several ways: a numeral with an exponent in either case and with or
without a plus sign, a character of a string as it is, by a short escape or by its code units, and
there may be any blanks between two words. `Spelled` is that grammar, word by word, said without the
scanner. The scanner is then shown to find the words in every spelling of them (`scan_spelled`).

Every rule of the scanner reads as far as it can, so each of them has to be told where its word
ends. Only a numeral does not say so itself: it ends where it does not go on, and so two numerals
must not touch. No document has two of them next to each other.
-/

namespace StepperMotion.Json

open Token (Piece)

/-! ## Numerals -/

/-- A point and at least one digit, or nothing. -/
inductive FractionText : Option (List Nat) → List Char → Prop where
  | absent : FractionText none []
  | present {ds : List Nat} (hne : ds ≠ []) (hdigits : ∀ d ∈ ds, d < 10) :
      FractionText (some ds) ('.' :: ds.map Nat.digitChar)

/-- The digits of an exponent; they may begin with zeros. -/
structure PowerText (n : Nat) (w : List Char) : Prop where
  nonempty : w ≠ []
  digits : ∀ c ∈ w, c.isDigit
  value : Nat.ofDigitChars 10 w 0 = n

/-- A letter, perhaps a sign, and at least one digit, or nothing. -/
inductive ExponentText : Option Int → List Char → Prop where
  | absent : ExponentText none []
  | bare {e : Char} {n : Nat} {w : List Char} (hmark : e = 'e' ∨ e = 'E') (hw : PowerText n w) :
      ExponentText (some n) (e :: w)
  | positive {e : Char} {n : Nat} {w : List Char} (hmark : e = 'e' ∨ e = 'E')
      (hw : PowerText n w) : ExponentText (some n) (e :: '+' :: w)
  | negative {e : Char} {n : Nat} {w : List Char} (hmark : e = 'e' ∨ e = 'E')
      (hw : PowerText n w) : ExponentText (some (-n)) (e :: '-' :: w)

/-- A numeral: perhaps a minus sign, a whole part without leading zeros, a fraction, an exponent. -/
inductive NumeralText : Numeral → List Char → Prop where
  | parts {n : Numeral} {f e : List Char} (hf : FractionText n.fraction f)
      (he : ExponentText n.exponent e) :
      NumeralText n ((if n.negative then ['-'] else []) ++ (Nat.toDigits 10 n.whole ++ (f ++ e)))

/-- The text does not begin with something that a numeral could go on with. -/
def EndsNumeral (r : List Char) : Prop :=
  ∀ c ∈ r.head?, c.isDigit = false ∧ c ≠ '.' ∧ c ≠ 'e' ∧ c ≠ 'E'

/-- The text does not begin with a digit. -/
def EndsDigits (r : List Char) : Prop := ∀ c ∈ r.head?, c.isDigit = false

theorem EndsNumeral.endsDigits {r : List Char} (h : EndsNumeral r) : EndsDigits r :=
  fun c hc => (h c hc).1

namespace Token

/-- A run of digits is read as a whole. -/
theorem digits_append {w r : List Char} (hw : ∀ c ∈ w, c.isDigit) (hr : EndsDigits r) :
    digits (w ++ r) = (w.map digitValue, r) := by
  have htake : r.takeWhile Char.isDigit = [] := by
    cases r with
    | nil => rfl
    | cons c r => simp [hr c rfl]
  have hdrop : r.dropWhile Char.isDigit = r := by
    cases r with
    | nil => rfl
    | cons c r => simp [hr c rfl]
  rw [digits, List.takeWhile_append_of_pos hw, List.dropWhile_append_of_pos hw, htake, hdrop,
    List.append_nil]

/-- The number of a run of digits. -/
theorem ofDigits_map (w : List Char) : ofDigits (w.map digitValue) = Nat.ofDigitChars 10 w 0 := by
  simp only [ofDigits, Nat.ofDigitChars, List.foldl_map, digitValue, Nat.mul_comm]

/-- The digits of a positive number do not begin with a zero. -/
theorem head_toDigits {n : Nat} (hn : 0 < n) : ∀ c ∈ (Nat.toDigits 10 n).head?, c ≠ '0' := by
  induction n using Nat.strongRecOn with
  | ind n ih =>
      rw [Nat.toDigits_eq_if (by decide)]
      split
      · rename_i hsmall
        have hdigit : ∀ m < 10, 0 < m → Nat.digitChar m ≠ '0' := by decide
        simpa using hdigit n hsmall hn
      · rename_i hlarge
        -- the digits before the last one are those of the quotient
        have hquot := ih (n / 10) (by omega) (by omega)
        obtain ⟨c, w, hw⟩ := List.exists_cons_of_ne_nil (Nat.toDigits_ne_nil (n := n / 10) (b := 10))
        rw [hw] at hquot ⊢
        exact hquot

/-- A number has a first digit. -/
theorem toDigits_cons (n : Nat) : ∃ c w, Nat.toDigits 10 n = c :: w ∧ c.isDigit := by
  obtain ⟨c, w, hw⟩ := List.exists_cons_of_ne_nil (Nat.toDigits_ne_nil (n := n) (b := 10))
  exact ⟨c, w, hw, Nat.isDigit_of_mem_toDigits (b := 10) (n := n) (by decide) (by decide)
    (hw ▸ List.mem_cons_self)⟩

theorem digitValue_eq_zero {c : Char} (hc : c.isDigit) (h : digitValue c = 0) : c = '0' := by
  have hrange := Char.isDigit_iff_toNat.mp hc
  have hzero : '0'.toNat = 48 := rfl
  apply Char.toNat_inj.mp
  unfold digitValue at h
  omega

/-- A whole part is read off the front of a text. -/
theorem whole?_toDigits (n : Nat) {r : List Char} (hr : EndsDigits r) :
    whole? (Nat.toDigits 10 n ++ r) = some (n, r) := by
  have hdigits : ∀ c ∈ Nat.toDigits 10 n, c.isDigit := fun c hc =>
    Nat.isDigit_of_mem_toDigits (by decide) (by decide) hc
  have hvalue : ofDigits ((Nat.toDigits 10 n).map digitValue) = n := by
    rw [ofDigits_map, Nat.ofDigitChars_toDigits (by decide) (by decide)]
  rcases Nat.eq_zero_or_pos n with rfl | hpos
  · rw [whole?, digits_append hdigits hr]
    rfl
  · have hhead := head_toDigits hpos
    rw [whole?, digits_append hdigits hr]
    generalize Nat.toDigits 10 n = w at hdigits hvalue hhead
    cases w with
    | nil =>
        have : 0 = n := hvalue
        omega
    | cons c w =>
        -- the first digit is not zero, so it does not matter whether there are more
        have hfirst : digitValue c ≠ 0 := fun h =>
          hhead c rfl (digitValue_eq_zero (hdigits c List.mem_cons_self) h)
        rw [List.map_cons] at hvalue ⊢
        generalize digitValue c = d at hfirst hvalue
        cases d with
        | zero => exact absurd rfl hfirst
        | succ d =>
            simp only
            rw [hvalue]

/-- Digits are given by their values. -/
theorem digits_digitChar {ds : List Nat} (hds : ∀ d ∈ ds, d < 10) {r : List Char}
    (hr : EndsDigits r) : digits (ds.map Nat.digitChar ++ r) = (ds, r) := by
  have hdigit : ∀ d < 10, (Nat.digitChar d).isDigit ∧ digitValue (Nat.digitChar d) = d := by decide
  have hall : ∀ c ∈ ds.map Nat.digitChar, c.isDigit := by
    intro c hc
    obtain ⟨d, hd, rfl⟩ := List.mem_map.mp hc
    exact (hdigit d (hds d hd)).1
  have hvalues : (ds.map Nat.digitChar).map digitValue = ds := by
    rw [List.map_map]
    exact (List.map_congr_left fun d hd => (hdigit d (hds d hd)).2).trans (List.map_id ds)
  rw [digits_append hall hr, hvalues]

theorem fraction?_append {f? : Option (List Nat)} {f r : List Char} (hf : FractionText f? f)
    (hr : EndsDigits r) (hpoint : ∀ c ∈ r.head?, c ≠ '.') : fraction? (f ++ r) = some (f?, r) := by
  cases hf with
  | absent =>
      cases r with
      | nil => rfl
      | cons c r =>
          have hc : c ≠ '.' := hpoint c rfl
          simp [fraction?, hc]
  | present hne hdigits =>
      rename_i ds
      rw [List.cons_append, fraction?, digits_digitChar hdigits hr]
      cases ds with
      | nil => exact absurd rfl hne
      | cons d ds => rfl

theorem power?_append {n : Nat} {w r : List Char} (negative : Bool) (hw : PowerText n w)
    (hr : EndsDigits r) :
    power? negative (w ++ r) = some (some (if negative then -(n : Int) else n), r) := by
  have hvalue : ofDigits (w.map digitValue) = n := by rw [ofDigits_map, hw.value]
  rw [power?, digits_append hw.digits hr]
  cases w with
  | nil => exact absurd rfl hw.nonempty
  | cons c w =>
      rw [List.map_cons] at hvalue ⊢
      simp only [hvalue]

theorem exponent?_append {e? : Option Int} {e r : List Char} (he : ExponentText e? e)
    (hr : EndsNumeral r) : exponent? (e ++ r) = some (e?, r) := by
  cases he with
  | absent =>
      cases r with
      | nil => rfl
      | cons c r =>
          obtain ⟨_, _, hlower, hupper⟩ := hr c rfl
          simp [exponent?, hlower, hupper]
  | bare hmark hw =>
      rename_i c n w
      have hpower := power?_append false hw hr.endsDigits
      -- the first digit is no sign
      cases w with
      | nil => exact absurd rfl hw.nonempty
      | cons d w =>
          have hdigit := hw.digits d List.mem_cons_self
          have hminus : d ≠ '-' := by
            rintro rfl
            exact absurd hdigit (by decide)
          have hplus : d ≠ '+' := by
            rintro rfl
            exact absurd hdigit (by decide)
          simp only [List.cons_append] at hpower ⊢
          simp only [exponent?, hmark, if_true]
          split
          · rename_i heq
            exact absurd (List.cons.inj heq).1 hminus
          · rename_i heq
            exact absurd (List.cons.inj heq).1 hplus
          · exact hpower
  | positive hmark hw =>
      simp only [List.cons_append, exponent?, hmark, if_true, power?_append false hw hr.endsDigits]
      rfl
  | negative hmark hw =>
      simp only [List.cons_append, exponent?, hmark, if_true, power?_append true hw hr.endsDigits]

theorem endsDigits_fraction {f? : Option (List Nat)} {f r : List Char} (hf : FractionText f? f)
    (hr : EndsDigits r) : EndsDigits (f ++ r) := by
  cases hf with
  | absent => exact hr
  | present _ _ => exact fun c hc => Option.some.inj hc ▸ by decide

theorem endsDigits_exponent {e? : Option Int} {e r : List Char} (he : ExponentText e? e)
    (hr : EndsNumeral r) : EndsDigits (e ++ r) ∧ ∀ c ∈ (e ++ r).head?, c ≠ '.' := by
  have hletter : ∀ c, c = 'e' ∨ c = 'E' → c.isDigit = false ∧ c ≠ '.' := by
    rintro c (rfl | rfl) <;> decide
  have hmarked : ∀ c w, c = 'e' ∨ c = 'E' →
      EndsDigits (c :: w) ∧ ∀ d ∈ (c :: w).head?, d ≠ '.' := fun c w hc =>
    ⟨fun d hd => Option.some.inj hd ▸ (hletter c hc).1,
      fun d hd => Option.some.inj hd ▸ (hletter c hc).2⟩
  cases he with
  | absent => exact ⟨hr.endsDigits, fun c hc => (hr c hc).2.1⟩
  | bare hmark _ => exact hmarked _ _ hmark
  | positive hmark _ => exact hmarked _ _ hmark
  | negative hmark _ => exact hmarked _ _ hmark

/-- **A numeral is read off the front of a text.** -/
theorem numeral?_append {n : Numeral} {w r : List Char} (h : NumeralText n w)
    (hr : EndsNumeral r) : numeral? (w ++ r) = some (n, r) := by
  cases h with | parts hf he =>
  rename_i f e
  obtain ⟨hexponent, hpoint⟩ := endsDigits_exponent he hr
  have hunsigned : unsigned? n.negative (Nat.toDigits 10 n.whole ++ (f ++ (e ++ r))) =
      some (n, r) := by
    simp only [unsigned?, whole?_toDigits n.whole (endsDigits_fraction hf hexponent),
      fraction?_append hf hexponent hpoint, exponent?_append he hr, Option.bind_eq_bind,
      Option.bind_some, Option.pure_def]
  simp only [List.append_assoc]
  cases hsign : n.negative with
  | true =>
      rw [hsign] at hunsigned
      exact hunsigned
  | false =>
      -- the first digit is no sign
      obtain ⟨c, w, hw, hdigit⟩ := toDigits_cons n.whole
      rw [hsign, hw] at hunsigned
      simp only [Bool.false_eq_true, if_false, List.nil_append, hw, List.cons_append]
      unfold numeral?
      split
      · rename_i heq
        rw [(List.cons.inj heq).1] at hdigit
        exact absurd hdigit (by decide)
      · exact hunsigned

end Token

/-! ## Strings -/

/-- The characters that stand behind a backslash, and what the two stand for. -/
def escapes : List (Char × Char) :=
  [('"', '"'), ('\\', '\\'), ('/', '/'), ('b', '\x08'), ('f', '\x0c'), ('n', '\n'), ('r', '\r'),
   ('t', '\t')]

/-- A hexadecimal digit, in either case. -/
def HexDigit (c : Char) (v : Nat) : Prop :=
  v < 16 ∧ (c = Nat.digitChar v ∨ c = (Nat.digitChar v).toUpper)

/-- The spelling of a string between its quotes, place by place. -/
inductive PiecesText : List Piece → List Char → Prop where
  | done : PiecesText [] []
  | plain {c : Char} {ps : List Piece} {w : List Char} (hquote : c ≠ '"') (hslash : c ≠ '\\')
      (hcontrol : 0x20 ≤ c.toNat) (hw : PiecesText ps w) : PiecesText (.char c :: ps) (c :: w)
  | escape {e c : Char} {ps : List Piece} {w : List Char} (he : (e, c) ∈ escapes)
      (hw : PiecesText ps w) : PiecesText (.char c :: ps) ('\\' :: e :: w)
  | unit {a b c d : Char} {i j k l : Nat} {ps : List Piece} {w : List Char} (ha : HexDigit a i)
      (hb : HexDigit b j) (hc : HexDigit c k) (hd : HexDigit d l) (hw : PiecesText ps w) :
      PiecesText (.unit (((i * 16 + j) * 16 + k) * 16 + l) :: ps)
        ('\\' :: 'u' :: a :: b :: c :: d :: w)

/-- The text that places of a string stand for: a code unit stands for a character, or two of them
do. Half of a surrogate pair stands for nothing. -/
inductive Stands : List Piece → List Char → Prop where
  | done : Stands [] []
  | char {c : Char} {ps : List Piece} {cs : List Char} (h : Stands ps cs) :
      Stands (.char c :: ps) (c :: cs)
  | unit {n : Nat} {ps : List Piece} {cs : List Char} (hn : n < 0xd800 ∨ 0xdfff < n)
      (h : Stands ps cs) : Stands (.unit n :: ps) (Char.ofNat n :: cs)
  | pair {m n : Nat} {ps : List Piece} {cs : List Char} (hm : 0xd800 ≤ m ∧ m < 0xdc00)
      (hn : 0xdc00 ≤ n ∧ n ≤ 0xdfff) (h : Stands ps cs) :
      Stands (.unit m :: .unit n :: ps)
        (Char.ofNat (0x10000 + (m - 0xd800) * 0x400 + (n - 0xdc00)) :: cs)

namespace Token

theorem escape?_of_mem {e c : Char} (h : (e, c) ∈ escapes) : e ≠ 'u' ∧ escape? e = some c := by
  have hall : ∀ p ∈ escapes, p.1 ≠ 'u' ∧ escape? p.1 = some p.2 := by decide
  exact hall _ h

theorem hexValue?_of_hexDigit {c : Char} {v : Nat} (h : HexDigit c v) : hexValue? c = some v := by
  have hall : ∀ v < 16, hexValue? (Nat.digitChar v) = some v
      ∧ hexValue? (Nat.digitChar v).toUpper = some v := by decide
  obtain ⟨hv, rfl | rfl⟩ := h
  · exact (hall v hv).1
  · exact (hall v hv).2

/-- A character that is neither the quote nor the backslash is read as it is. -/
theorem pieces?_plain {c : Char} (hquote : c ≠ '"') (hslash : c ≠ '\\') (acc : List Piece)
    (r : List Char) :
    pieces? acc (c :: r) = if c.toNat < 0x20 then none else pieces? (.char c :: acc) r := by
  rw [pieces?.eq_def]
  split
  · rename_i heq
    exact absurd heq (by simp)
  · rename_i heq
    exact absurd (List.cons.inj heq).1 hquote
  · rename_i heq
    exact absurd (List.cons.inj heq).1 hslash
  · rename_i heq
    exact absurd (List.cons.inj heq).1 hslash
  · rename_i heq
    obtain ⟨rfl, rfl⟩ := List.cons.inj heq
    rfl

/-- Behind a backslash that does not announce a code unit there is one character. -/
theorem pieces?_escape {e c : Char} (h : (e, c) ∈ escapes) (acc : List Piece) (r : List Char) :
    pieces? acc ('\\' :: e :: r) = pieces? (.char c :: acc) r := by
  obtain ⟨hunit, hescape⟩ := escape?_of_mem h
  rw [pieces?.eq_def]
  split
  · rename_i heq
    exact absurd heq (by simp)
  · rename_i heq
    exact absurd (List.cons.inj heq).1 (by decide)
  · rename_i heq
    exact absurd (List.cons.inj (List.cons.inj heq).2).1 hunit
  · rename_i heq
    obtain ⟨rfl, rfl⟩ := List.cons.inj (List.cons.inj heq).2
    rw [hescape]
  · rename_i hother heq
    obtain ⟨rfl, rfl⟩ := List.cons.inj heq
    exact (hother e r rfl rfl).elim

/-- **A string is read up to its closing quote.** -/
theorem pieces?_append {ps : List Piece} {w : List Char} (h : PiecesText ps w) (acc : List Piece)
    (r : List Char) : pieces? acc (w ++ '"' :: r) = some (acc.reverse ++ ps, r) := by
  induction h generalizing acc with
  | done => simp [pieces?]
  | plain hquote hslash hcontrol _ ih =>
      rename_i c ps w _
      have hprintable : ¬ c.toNat < 0x20 := by omega
      rw [List.cons_append, pieces?_plain hquote hslash, if_neg hprintable, ih]
      simp
  | escape he _ ih =>
      rw [List.cons_append, List.cons_append, pieces?_escape he, ih]
      simp
  | unit ha hb hc hd _ ih =>
      simp only [List.cons_append, pieces?, hexUnit?, hexValue?_of_hexDigit ha,
        hexValue?_of_hexDigit hb, hexValue?_of_hexDigit hc, hexValue?_of_hexDigit hd, ih,
        Option.bind_eq_bind, Option.bind_some, Option.pure_def]
      simp

/-- The characters that places of a string stand for are found. -/
theorem characters?_of_stands {ps : List Piece} {cs : List Char} (h : Stands ps cs)
    (acc : List Char) : characters? acc ps = some (acc.reverse ++ cs) := by
  induction h generalizing acc with
  | done => simp [characters?]
  | char _ ih => simp [characters?, ih]
  | unit hn _ ih =>
      rw [characters?.eq_def]
      dsimp only
      rw [if_pos hn, ih]
      simp
  | pair hm hn _ ih =>
      rename_i m n ps cs _
      have hhalf : ¬ (m < 0xd800 ∨ 0xdfff < m) := by omega
      have hpair : m < 0xdc00 ∧ 0xdc00 ≤ n ∧ n ≤ 0xdfff := ⟨hm.2, hn⟩
      simp only [characters?, hhalf, hpair, if_true, if_false, and_self, ih]
      simp

/-- Where characters are found, the places stand for them. -/
theorem stands_of_characters? {ps : List Piece} {acc r : List Char}
    (h : characters? acc ps = some r) : ∃ cs, Stands ps cs := by
  fun_induction characters? acc ps with
  | case1 acc => exact ⟨[], .done⟩
  | case2 acc c ps ih =>
      obtain ⟨cs, hcs⟩ := ih h
      exact ⟨_, .char hcs⟩
  | case3 acc n ps hn ih =>
      obtain ⟨cs, hcs⟩ := ih h
      exact ⟨_, .unit hn hcs⟩
  | case4 acc m hhalf n ps hpair ih =>
      obtain ⟨cs, hcs⟩ := ih h
      exact ⟨_, .pair ⟨by omega, hpair.1⟩ hpair.2 hcs⟩
  | case5 => exact absurd h (by simp)
  | case6 => exact absurd h (by simp)

end Token

/-! ## Words -/

def Token.isNumber : Token → Bool
  | .number _ => true
  | _ => false

/-- How a word is spelled. -/
inductive Lexeme : Token → List Char → Prop where
  | openArray : Lexeme .openArray ['[']
  | closeArray : Lexeme .closeArray [']']
  | openObject : Lexeme .openObject ['{']
  | closeObject : Lexeme .closeObject ['}']
  | comma : Lexeme .comma [',']
  | colon : Lexeme .colon [':']
  | null : Lexeme .null ['n', 'u', 'l', 'l']
  | true : Lexeme (.bool true) ['t', 'r', 'u', 'e']
  | false : Lexeme (.bool false) ['f', 'a', 'l', 's', 'e']
  | number {n : Numeral} {w : List Char} (h : NumeralText n w) : Lexeme (.number n) w
  | text {ps : List Piece} {cs w : List Char} (hps : PiecesText ps w) (hcs : Stands ps cs) :
      Lexeme (.string (some (String.ofList cs))) ('"' :: (w ++ ['"']))
  | noText {ps : List Piece} {w : List Char} (hps : PiecesText ps w) (h : ∀ cs, ¬ Stands ps cs) :
      Lexeme (.string none) ('"' :: (w ++ ['"']))

/-- The text consists of the words, in their order, with any blanks before, between and behind. -/
inductive Spelled : List Token → List Char → Prop where
  | done {b : List Char} (hb : ∀ c ∈ b, Token.isBlank c) : Spelled [] b
  | word {t : Token} {ts : List Token} {b w r : List Char} (hb : ∀ c ∈ b, Token.isBlank c)
      (ht : Lexeme t w) (hr : Spelled ts r) : Spelled (t :: ts) (b ++ (w ++ r))

/-- No two numerals are next to each other. -/
def Apart (ts : List Token) : Prop :=
  ts.IsChain fun t u => t.isNumber = true → u.isNumber = false

namespace Token

variable {t : Token} {ts : List Token} {w r : List Char}

/-- No numeral goes on with a blank. -/
theorem separates_of_isBlank {c : Char} (h : isBlank c) :
    c.isDigit = false ∧ c ≠ '.' ∧ c ≠ 'e' ∧ c ≠ 'E' := by
  simp only [isBlank, Bool.or_eq_true, decide_eq_true_eq] at h
  rcases h with ((rfl | rfl) | rfl) | rfl <;> decide

/-- The token of a text that begins like a numeral is one. -/
theorem next?_numeral {c : Char} (hc : c = '-' ∨ c.isDigit) (r : List Char) :
    next? c r = (numeral? (c :: r)).map fun (n, r) => (number n, r) := by
  unfold next?
  split <;> first | rfl | exact absurd hc (by decide)

/-- A numeral begins with its sign or with a digit. -/
theorem numeralText_cons {n : Numeral} (h : NumeralText n w) :
    ∃ c v, w = c :: v ∧ (c = '-' ∨ c.isDigit) := by
  cases h with | parts hf he =>
  obtain ⟨c, v, hv, hdigit⟩ := toDigits_cons n.whole
  cases n.negative with
  | true => exact ⟨'-', _, rfl, Or.inl rfl⟩
  | false => exact ⟨c, _, by rw [hv]; rfl, Or.inr hdigit⟩

theorem string?_append {ps : List Piece} {v : List Char} (h : PiecesText ps v) (r : List Char) :
    string? ((v ++ ['"']) ++ r) = some (.string ((characters? [] ps).map String.ofList), r) := by
  rw [List.append_assoc, List.singleton_append, string?, pieces?_append h]
  rfl

/-- **A word is read off the front of a text**, and it begins with no blank. -/
theorem next?_lexeme (h : Lexeme t w) (hr : t.isNumber = true → EndsNumeral r) :
    ∃ c v, w = c :: v ∧ isBlank c = false ∧ next? c (v ++ r) = some (t, r) := by
  cases h with
  | number hn =>
      obtain ⟨c, v, rfl, hc⟩ := numeralText_cons hn
      refine ⟨c, v, rfl, ?_, ?_⟩
      · rcases hc with rfl | hdigit
        · decide
        · refine Bool.eq_false_iff.mpr fun hblank => ?_
          exact absurd (hdigit.symm.trans (separates_of_isBlank hblank).1) (by decide)
      · rw [next?_numeral hc, ← List.cons_append, numeral?_append hn (hr rfl)]
        rfl
  | text hps hcs =>
      refine ⟨'"', _, rfl, rfl, ?_⟩
      show string? _ = _
      rw [string?_append hps, characters?_of_stands hcs]
      rfl
  | noText hps hnone =>
      rename_i ps w
      have hnot : characters? [] ps = none := by
        cases hfound : characters? [] ps with
        | none => rfl
        | some cs =>
            obtain ⟨cs, hcs⟩ := stands_of_characters? hfound
            exact absurd hcs (hnone cs)
      refine ⟨'"', _, rfl, rfl, ?_⟩
      show string? _ = _
      rw [string?_append hps, hnot]
      rfl
  | _ => exact ⟨_, _, rfl, rfl, rfl⟩

theorem scanWith_blanks {b : List Char} (hb : ∀ c ∈ b, isBlank c) (acc : List Token) (fuel : Nat)
    (r : List Char) : scanWith acc (b.length + fuel) (b ++ r) = scanWith acc fuel r := by
  induction b with
  | nil => rw [List.length_nil, Nat.zero_add, List.nil_append]
  | cons c b ih =>
      have hc : isBlank c := hb c List.mem_cons_self
      rw [List.length_cons, Nat.add_right_comm, List.cons_append, scanWith, if_pos hc]
      exact ih fun d hd => hb d (List.mem_cons_of_mem c hd)

/-- A text that goes on with another word than a numeral does not go on with a numeral. -/
theorem endsNumeral_spelled (h : Spelled ts r) (hts : ∀ t ∈ ts.head?, t.isNumber = false) :
    EndsNumeral r := by
  cases h with
  | done hb => exact fun c hc => separates_of_isBlank (hb c (List.mem_of_mem_head? hc))
  | @word t ts b w r hb ht _ =>
      have hnumber : t.isNumber = false := hts t rfl
      cases b with
      | cons d b =>
          exact fun c hc => Option.some.inj hc ▸ separates_of_isBlank (hb d List.mem_cons_self)
      | nil =>
          cases ht with
          | number _ => cases hnumber
          | _ => exact fun c hc => Option.some.inj hc ▸ by decide

theorem scanWith_spelled (h : Spelled ts r) (hapart : Apart ts) (acc : List Token) {fuel : Nat}
    (hfuel : r.length ≤ fuel) : scanWith acc fuel r = some (acc.reverse ++ ts) := by
  induction h generalizing acc fuel with
  | @done b hb =>
      obtain ⟨rest, rfl⟩ := Nat.exists_eq_add_of_le hfuel
      have hskip := scanWith_blanks hb acc rest []
      rw [List.append_nil] at hskip
      rw [hskip, scanWith, List.append_nil]
  | @word t ts b w r hb ht hr ih =>
      have hends : t.isNumber = true → EndsNumeral r := fun hnumber =>
        endsNumeral_spelled hr fun u hu => (List.isChain_cons.mp hapart).1 u hu hnumber
      obtain ⟨c, v, rfl, hblank, hnext⟩ := next?_lexeme ht hends
      -- the blanks and the word are paid for, and what is left is enough for the rest
      obtain ⟨rest, rfl⟩ : ∃ rest, fuel = b.length + (rest + 1) := by
        refine ⟨fuel - b.length - 1, ?_⟩
        simp only [List.length_append, List.length_cons] at hfuel
        omega
      rw [scanWith_blanks hb, List.cons_append, scanWith, hblank, hnext]
      simp only [Bool.false_eq_true, if_false]
      rw [ih (List.isChain_cons.mp hapart).2 (t :: acc)]
      · simp
      · simp only [List.length_append, List.length_cons] at hfuel
        omega

/-- **The words are found in every spelling of them.** -/
theorem scan_spelled (h : Spelled ts r) (hapart : Apart ts) : scan r = some ts :=
  scanWith_spelled h hapart [] (Nat.le_refl _)

end Token

end StepperMotion.Json
