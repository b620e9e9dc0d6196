import StepperMotion.Json.Writer
import StepperMotion.Proofs.Reading

/-!
# What is written can be read

A document is written as its words, one behind the other and without blanks (`toList_render`). Each
of them is spelled as the grammar has it, so that what is written is a text of the document
(`spells_render`), and can be read.

Only a numeral can be made up that has no spelling: one whose fraction has no digits, or something
that is no digit. None is ever read, and none is written of an integer.
-/

namespace StepperMotion

/-- The fraction has digits, and nothing but digits. -/
def Numeral.IsProper (n : Numeral) : Prop := ∀ ds ∈ n.fraction, ds ≠ [] ∧ ∀ d ∈ ds, d < 10

instance (n : Numeral) : Decidable n.IsProper :=
  inferInstanceAs (Decidable (∀ ds ∈ n.fraction, ds ≠ [] ∧ ∀ d ∈ ds, d < 10))

theorem Numeral.isProper_ofInt (x : Int) : (Numeral.ofInt x).IsProper :=
  fun _ h => absurd h (by simp [Numeral.ofInt])

namespace Json

open Token (Piece)

/-! ## The words that are written -/

namespace Token

/-- How a word is written. -/
def written : Token → List Char
  | openArray => ['[']
  | closeArray => [']']
  | openObject => ['{']
  | closeObject => ['}']
  | comma => [',']
  | colon => [':']
  | null => ['n', 'u', 'l', 'l']
  | bool true => ['t', 'r', 'u', 'e']
  | bool false => ['f', 'a', 'l', 's', 'e']
  | number n => (renderNumeral n).toList
  | string s => (renderString s).toList

def IsProper : Token → Prop
  | number n => n.IsProper
  | _ => True

instance : DecidablePred IsProper
  | number n => inferInstanceAs (Decidable n.IsProper)
  | openArray | closeArray | openObject | closeObject | comma | colon | null | bool _ | string _ =>
    inferInstanceAs (Decidable True)

theorem powerText_toDigits (n : Nat) : PowerText n (Nat.toDigits 10 n) where
  nonempty := Nat.toDigits_ne_nil
  digits := fun _ hc => Nat.isDigit_of_mem_toDigits (by decide) (by decide) hc
  value := Nat.ofDigitChars_toDigits (by decide) (by decide)

theorem fractionText_written {f? : Option (List Nat)}
    (h : ∀ ds ∈ f?, ds ≠ [] ∧ ∀ d ∈ ds, d < 10) :
    FractionText f? (match f? with
      | some ds => "." ++ String.join (ds.map toString)
      | none => "").toList := by
  cases f? with
  | none => exact .absent
  | some ds =>
      obtain ⟨hne, hdigits⟩ := h ds rfl
      have hjoin : (String.join (ds.map toString)).toList = ds.map Nat.digitChar := by
        rw [String.toList_join, List.flatMap_map]
        clear h hne
        induction ds with
        | nil => rfl
        | cons d ds ih =>
            have hd : (toString d).toList = [Nat.digitChar d] := by
              rw [Nat.toString_eq_repr, Nat.toList_repr,
                Nat.toDigits_of_lt_base (hdigits d List.mem_cons_self)]
            rw [List.flatMap_cons, hd, ih fun e he => hdigits e (List.mem_cons_of_mem d he)]
            rfl
      rw [String.toList_append, hjoin]
      exact .present hne hdigits

theorem exponentText_written (e? : Option Int) :
    ExponentText e? (match e? with
      | some e => "e" ++ toString e
      | none => "").toList := by
  match e? with
  | none => exact .absent
  | some (.ofNat n) =>
      have hwritten : ("e" ++ toString (Int.ofNat n)).toList = 'e' :: Nat.toDigits 10 n := by
        rw [String.toList_append]
        exact congrArg _ Nat.toList_repr
      rw [hwritten]
      exact .bare (Or.inl rfl) (powerText_toDigits n)
  | some (.negSucc n) =>
      have hwritten : ("e" ++ toString (Int.negSucc n)).toList =
          'e' :: '-' :: Nat.toDigits 10 (n + 1) := by
        have hrepr : toString (Int.negSucc n) = "-" ++ (n + 1).repr := rfl
        rw [hrepr, String.toList_append, String.toList_append, Nat.toList_repr]
        rfl
      rw [hwritten]
      exact .negative (Or.inl rfl) (powerText_toDigits (n + 1))

theorem numeralText_written {n : Numeral} (h : n.IsProper) :
    NumeralText n (renderNumeral n).toList := by
  have hsign : (if n.negative then "-" else "").toList = if n.negative then ['-'] else [] := by
    cases n.negative <;> rfl
  have hwhole : (toString n.whole).toList = Nat.toDigits 10 n.whole := by
    rw [Nat.toString_eq_repr, Nat.toList_repr]
  have hparts := NumeralText.parts (fractionText_written h) (exponentText_written n.exponent)
  rw [renderNumeral]
  simp only [String.toList_append, hsign, hwhole, List.append_assoc]
  exact hparts

/-- What is written for a character is one place of a string that stands for it. -/
theorem exists_piece_escaped (c : Char) : ∃ p : Piece,
    (∀ {ps w}, PiecesText ps w → PiecesText (p :: ps) (escaped c ++ w))
      ∧ ∀ {ps cs}, Stands ps cs → Stands (p :: ps) (c :: cs) := by
  unfold escaped
  split
  case h_8 hquote hslash _ _ _ _ _ =>
    split
    · -- the code unit of a character below the blank, of which only the last two digits are written
      rename_i hcontrol
      have hdigit : ∀ v < 16, HexDigit (hexDigit v) v := by
        have hall : ∀ v < 16, hexDigit v = Nat.digitChar v := by decide
        exact fun v hv => ⟨hv, Or.inl (hall v hv)⟩
      have hzero : HexDigit '0' 0 := ⟨by decide, Or.inl rfl⟩
      refine ⟨.unit (((0 * 16 + 0) * 16 + c.toNat / 16) * 16 + c.toNat % 16), fun h =>
        .unit hzero hzero (hdigit _ (by omega)) (hdigit _ (by omega)) h, fun {_ cs} h => ?_⟩
      have hunit : ((0 * 16 + 0) * 16 + c.toNat / 16) * 16 + c.toNat % 16 = c.toNat := by omega
      have hstands := Stands.unit (n := c.toNat) (Or.inl (by omega)) h
      rw [Char.ofNat_toNat] at hstands
      rwa [hunit]
    · rename_i hprintable
      exact ⟨.char c, fun h => .plain hquote hslash (by omega) h, .char⟩
  all_goals exact ⟨.char _, .escape (by decide), .char⟩

theorem piecesText_written (cs : List Char) :
    ∃ ps, PiecesText ps (cs.flatMap escaped) ∧ Stands ps cs := by
  induction cs with
  | nil => exact ⟨[], .done, .done⟩
  | cons c cs ih =>
      obtain ⟨ps, hps, hcs⟩ := ih
      obtain ⟨p, htext, hstands⟩ := exists_piece_escaped c
      exact ⟨p :: ps, htext hps, hstands hcs⟩

/-- **A word is written as the grammar has it.** -/
theorem lexeme_written {t : Token} (h : t.IsProper) : Lexeme t t.written := by
  cases t with
  | number n => exact .number (numeralText_written h)
  | bool b =>
      cases b with
      | true => exact .true
      | false => exact .false
  | string s =>
      cases s with
      | some s =>
          obtain ⟨ps, hps, hcs⟩ := piecesText_written s.toList
          have hlexeme := Lexeme.text hps hcs
          rw [String.ofList_toList] at hlexeme
          rwa [written, renderString, quoted, String.toList_ofList]
      | none =>
          -- half of a surrogate pair
          have hpieces : PiecesText [.unit 0xd800] ['\\', 'u', 'd', '8', '0', '0'] :=
            .unit (i := 13) (j := 8) (k := 0) (l := 0) ⟨by decide, Or.inl rfl⟩
              ⟨by decide, Or.inl rfl⟩ ⟨by decide, Or.inl rfl⟩ ⟨by decide, Or.inl rfl⟩ .done
          refine .noText hpieces fun cs hcs => ?_
          cases hcs with
          | unit hn _ => omega
  | openArray => exact .openArray
  | closeArray => exact .closeArray
  | openObject => exact .openObject
  | closeObject => exact .closeObject
  | comma => exact .comma
  | colon => exact .colon
  | null => exact .null

end Token

/-! ## A document is written as its words -/

/-- The words of a document, written without blanks. -/
def writtenTokens (ts : List Token) : List Char := ts.flatMap Token.written

theorem writtenTokens_cons (t : Token) (ts : List Token) :
    writtenTokens (t :: ts) = t.written ++ writtenTokens ts := List.flatMap_cons

theorem writtenTokens_append (ts us : List Token) :
    writtenTokens (ts ++ us) = writtenTokens ts ++ writtenTokens us := List.flatMap_append

/-- Elements with commas between them, and the end of the array. -/
theorem intercalate_elements (v : Json) (vs : List Json) :
    [','].intercalate ((v :: vs).map fun u => writtenTokens (tokens u)) ++ [']'] =
      writtenTokens (tokens v ++ elementTokens vs) := by
  induction vs generalizing v with
  | nil =>
      rw [List.map_cons, List.map_nil, List.intercalate_singleton, writtenTokens_append]
      rfl
  | cons u vs ih =>
      have hrest := ih u
      rw [List.map_cons] at hrest
      rw [List.map_cons, List.map_cons, List.intercalate_cons_cons, List.append_assoc, hrest,
        elementTokens, writtenTokens_append (tokens v), writtenTokens_cons, List.append_assoc]
      rfl

/-- What is written for a member. -/
def writtenMember (m : Option String × Json) : List Char :=
  writtenTokens (.string m.1 :: .colon :: tokens m.2)

/-- Members with commas between them, and the end of the object. -/
theorem intercalate_members (m : Option String × Json) (ms : List (Option String × Json)) :
    [','].intercalate ((m :: ms).map writtenMember) ++ ['}'] =
      writtenTokens (.string m.1 :: .colon :: (tokens m.2 ++ memberTokens ms)) := by
  have hmember : ∀ (m : Option String × Json) ts,
      writtenTokens (.string m.1 :: .colon :: (tokens m.2 ++ ts)) =
        writtenMember m ++ writtenTokens ts := by
    intro m ts
    rw [← List.cons_append, ← List.cons_append, writtenTokens_append]
    rfl
  induction ms generalizing m with
  | nil =>
      rw [List.map_cons, List.map_nil, List.intercalate_singleton, hmember]
      rfl
  | cons n ms ih =>
      have hrest := ih n
      rw [List.map_cons] at hrest
      rw [List.map_cons, List.map_cons, List.intercalate_cons_cons, List.append_assoc, hrest,
        hmember m, List.append_assoc]
      rfl

mutual

theorem toList_render : ∀ v : Json, (render v).toList = writtenTokens (tokens v)
  | null => rfl
  | bool b => by cases b <;> rfl
  | number n => (List.append_nil _).symm
  | string s => (List.append_nil _).symm
  | array vs => by
      have hall := toList_renderAll vs
      cases vs with
      | nil => rfl
      | cons v vs =>
          rw [render, String.toList_append, String.toList_append, String.toList_intercalate, hall,
            List.append_assoc]
          exact congrArg ('[' :: ·) (intercalate_elements v vs)
  | object ms => by
      have hall := toList_renderMembers ms
      cases ms with
      | nil => rfl
      | cons m ms =>
          rw [render, String.toList_append, String.toList_append, String.toList_intercalate, hall,
            List.append_assoc]
          exact congrArg ('{' :: ·) (intercalate_members m ms)

theorem toList_renderAll : ∀ vs : List Json,
    (renderAll vs).map String.toList = vs.map fun v => writtenTokens (tokens v)
  | [] => rfl
  | v :: vs => by rw [renderAll, List.map_cons, List.map_cons, toList_render v, toList_renderAll vs]

theorem toList_renderMembers : ∀ ms : List (Option String × Json),
    (renderMembers ms).map String.toList = ms.map writtenMember
  | [] => rfl
  | (k, v) :: ms => by
      rw [renderMembers, List.map_cons, List.map_cons, toList_renderMembers ms,
        String.toList_append, String.toList_append, toList_render v, List.append_assoc]
      rfl

end

/-! ## What is written is read back -/

/-- All numerals of the document are proper ones. -/
def IsProper (v : Json) : Prop := ∀ t ∈ tokens v, t.IsProper

instance (v : Json) : Decidable v.IsProper :=
  inferInstanceAs (Decidable (∀ t ∈ tokens v, t.IsProper))

/-- Words are spelled by what is written for them, with the same blanks in front of each. -/
theorem spelled_written {b : List Char} (hb : ∀ c ∈ b, Token.isBlank c) {ts : List Token}
    (h : ∀ t ∈ ts, t.IsProper) : Spelled ts (ts.flatMap fun t => b ++ t.written) := by
  induction ts with
  | nil => exact .done (b := []) (by simp)
  | cons t ts ih =>
      rw [List.flatMap_cons, List.append_assoc]
      exact .word hb (Token.lexeme_written (h t List.mem_cons_self))
        (ih fun u hu => h u (List.mem_cons_of_mem t hu))

/-- **What is written for a document is a text of it.** -/
theorem spells_render {v : Json} (h : v.IsProper) : Spells v (render v) := by
  rw [Spells, toList_render]
  exact spelled_written (b := []) (by simp) h

/-! ## Proper documents -/

theorem isProper_int (x : Int) : (int x).IsProper := by
  intro t ht
  obtain rfl : t = .number (.ofInt x) := by simpa [int, tokens] using ht
  exact Numeral.isProper_ofInt x

theorem isProper_bool (b : Bool) : (bool b).IsProper := by
  intro t ht
  obtain rfl : t = .bool b := by simpa [tokens] using ht
  trivial

theorem isProper_elementTokens {vs : List Json} (h : ∀ v ∈ vs, v.IsProper) :
    ∀ t ∈ elementTokens vs, t.IsProper := by
  induction vs with
  | nil => simp [elementTokens, Token.IsProper]
  | cons v vs ih =>
      rw [List.forall_mem_cons] at h
      simp only [elementTokens, List.forall_mem_cons, List.forall_mem_append]
      exact ⟨trivial, h.1, ih h.2⟩

theorem isProper_memberTokens {ms : List (Option String × Json)} (h : ∀ m ∈ ms, m.2.IsProper) :
    ∀ t ∈ memberTokens ms, t.IsProper := by
  induction ms with
  | nil => simp [memberTokens, Token.IsProper]
  | cons m ms ih =>
      rw [List.forall_mem_cons] at h
      simp only [memberTokens, List.forall_mem_cons, List.forall_mem_append]
      exact ⟨trivial, trivial, trivial, h.1, ih h.2⟩

theorem isProper_array {vs : List Json} (h : ∀ v ∈ vs, v.IsProper) : (array vs).IsProper := by
  cases vs with
  | nil => simp [IsProper, tokens, Token.IsProper]
  | cons v vs =>
      rw [List.forall_mem_cons] at h
      simp only [IsProper, tokens, List.forall_mem_cons, List.forall_mem_append]
      exact ⟨trivial, h.1, isProper_elementTokens h.2⟩

theorem isProper_object {ms : List (Option String × Json)} (h : ∀ m ∈ ms, m.2.IsProper) :
    (object ms).IsProper := by
  cases ms with
  | nil => simp [IsProper, tokens, Token.IsProper]
  | cons m ms =>
      rw [List.forall_mem_cons] at h
      simp only [IsProper, tokens, List.forall_mem_cons, List.forall_mem_append]
      exact ⟨trivial, trivial, trivial, h.1, isProper_memberTokens h.2⟩

end Json

end StepperMotion
