import StepperMotion.Json.Reader
import StepperMotion.Proofs.Spelling

/-!
# The documents that texts hold

A document is a sequence of words: `tokens` writes it down, and `Spells` says of a text that it is
one of the many spellings of them. Main statement: whoever reads a text that spells a document gets
that document (`parse?_of_spells`), whatever it holds and however deep it nests.

The reader is a machine over the words. A whole document takes it from a place where a value is due
to the place where that value has been delivered, whatever brackets are open around it. This is
one induction over the document, together with its elements and its members.
-/

namespace StepperMotion.Json

open Reader (step deliver takeValue)

mutual

/-- The words of a document. -/
def tokens : Json → List Token
  | null => [.null]
  | bool b => [.bool b]
  | number n => [.number n]
  | string s => [.string s]
  | array [] => [.openArray, .closeArray]
  | array (v :: vs) => .openArray :: (tokens v ++ elementTokens vs)
  | object [] => [.openObject, .closeObject]
  | object ((k, v) :: ms) =>
    .openObject :: .string k :: .colon :: (tokens v ++ memberTokens ms)

/-- The words of the elements behind the first one, and the end of the array. -/
def elementTokens : List Json → List Token
  | [] => [.closeArray]
  | v :: vs => .comma :: (tokens v ++ elementTokens vs)

/-- The words of the members behind the first one, and the end of the object. -/
def memberTokens : List (Option String × Json) → List Token
  | [] => [.closeObject]
  | (k, v) :: ms => .comma :: .string k :: .colon :: (tokens v ++ memberTokens ms)

end

/-- The text is a spelling of the document. -/
def Spells (v : Json) (text : String) : Prop := Spelled (tokens v) text.toList

/-! ## Numerals are apart -/

theorem apart_cons {t : Token} {ts : List Token} (ht : t.isNumber = false) (h : Apart ts) :
    Apart (t :: ts) :=
  List.isChain_cons.mpr ⟨fun _ _ hn => absurd (ht.symm.trans hn) (by decide), h⟩

/-- Something that is no numeral comes first. -/
def StartsApart (ts : List Token) : Prop := ∀ t ∈ ts.head?, t.isNumber = false

mutual

theorem apart_tokens : ∀ (v : Json) {ts : List Token}, Apart ts → StartsApart ts →
    Apart (tokens v ++ ts)
  | null, _, h, _ => apart_cons rfl h
  | bool _, _, h, _ => apart_cons rfl h
  | number _, _, h, hts => List.isChain_cons.mpr ⟨fun u hu _ => hts u hu, h⟩
  | string _, _, h, _ => apart_cons rfl h
  | array [], _, h, _ => apart_cons rfl (apart_cons rfl h)
  | array (v :: vs), ts, h, _ => by
      rw [tokens, List.cons_append, List.append_assoc]
      obtain ⟨hrest, hstart⟩ := apart_elementTokens vs h
      exact apart_cons rfl (apart_tokens v hrest hstart)
  | object [], _, h, _ => apart_cons rfl (apart_cons rfl h)
  | object ((_, v) :: ms), ts, h, _ => by
      rw [tokens, List.cons_append, List.cons_append, List.cons_append, List.append_assoc]
      obtain ⟨hrest, hstart⟩ := apart_memberTokens ms h
      exact apart_cons rfl (apart_cons rfl (apart_cons rfl (apart_tokens v hrest hstart)))

theorem apart_elementTokens : ∀ (vs : List Json) {ts : List Token}, Apart ts →
    Apart (elementTokens vs ++ ts) ∧ StartsApart (elementTokens vs ++ ts)
  | [], _, h => ⟨apart_cons rfl h, fun _ ht => Option.some.inj ht ▸ rfl⟩
  | v :: vs, ts, h => by
      rw [elementTokens, List.cons_append, List.append_assoc]
      obtain ⟨hrest, hstart⟩ := apart_elementTokens vs h
      exact ⟨apart_cons rfl (apart_tokens v hrest hstart), fun _ ht => Option.some.inj ht ▸ rfl⟩

theorem apart_memberTokens : ∀ (ms : List (Option String × Json)) {ts : List Token}, Apart ts →
    Apart (memberTokens ms ++ ts) ∧ StartsApart (memberTokens ms ++ ts)
  | [], _, h => ⟨apart_cons rfl h, fun _ ht => Option.some.inj ht ▸ rfl⟩
  | (_, v) :: ms, ts, h => by
      rw [memberTokens, List.cons_append, List.cons_append, List.cons_append, List.append_assoc]
      obtain ⟨hrest, hstart⟩ := apart_memberTokens ms h
      exact ⟨apart_cons rfl (apart_cons rfl (apart_cons rfl (apart_tokens v hrest hstart))),
        fun _ ht => Option.some.inj ht ▸ rfl⟩

end

/-! ## A document is read as a whole -/

/-- The first word of a document opens a value, so the first element of an array is read like any
other value. -/
theorem foldlM_firstElement (v : Json) (frames : List Frame) (ts : List Token) :
    (tokens v ++ ts).foldlM step (.firstElement frames) =
      (tokens v ++ ts).foldlM step (.value (.array [] :: frames)) := by
  cases v with
  | array vs => cases vs <;> rfl
  | object ms => rcases ms with _ | ⟨⟨_, _⟩, _⟩ <;> rfl
  | _ => rfl

mutual

theorem foldlM_tokens : ∀ (v : Json) (frames : List Frame) (ts : List Token),
    (tokens v ++ ts).foldlM step (.value frames) = ts.foldlM step (deliver v frames)
  | null, _, _ => rfl
  | bool _, _, _ => rfl
  | number _, _, _ => rfl
  | string _, _, _ => rfl
  | array [], _, _ => rfl
  | array (v :: vs), frames, ts => by
      rw [tokens, List.cons_append, List.append_assoc, List.foldlM_cons]
      show (tokens v ++ (elementTokens vs ++ ts)).foldlM step (.firstElement frames) = _
      rw [foldlM_firstElement, foldlM_tokens v]
      exact foldlM_elementTokens vs [v] frames ts
  | object [], _, _ => rfl
  | object ((k, v) :: ms), frames, ts => by
      rw [tokens, List.cons_append, List.cons_append, List.cons_append, List.append_assoc]
      show (tokens v ++ (memberTokens ms ++ ts)).foldlM step (.value (.object [] k :: frames)) = _
      rw [foldlM_tokens v]
      exact foldlM_memberTokens ms [(k, v)] frames ts

theorem foldlM_elementTokens : ∀ (vs read : List Json) (frames : List Frame) (ts : List Token),
    (elementTokens vs ++ ts).foldlM step (.afterElement read frames) =
      ts.foldlM step (deliver (.array (read.reverse ++ vs)) frames)
  | [], read, frames, ts => by
      rw [List.append_nil]
      rfl
  | v :: vs, read, frames, ts => by
      rw [elementTokens, List.cons_append, List.append_assoc]
      show (tokens v ++ (elementTokens vs ++ ts)).foldlM step (.value (.array read :: frames)) = _
      rw [foldlM_tokens v]
      show (elementTokens vs ++ ts).foldlM step (.afterElement (v :: read) frames) = _
      rw [foldlM_elementTokens vs, List.reverse_cons, List.append_assoc, List.singleton_append]

theorem foldlM_memberTokens : ∀ (ms read : List (Option String × Json)) (frames : List Frame)
    (ts : List Token),
    (memberTokens ms ++ ts).foldlM step (.afterMember read frames) =
      ts.foldlM step (deliver (.object (read.reverse ++ ms)) frames)
  | [], read, frames, ts => by
      rw [List.append_nil]
      rfl
  | (k, v) :: ms, read, frames, ts => by
      rw [memberTokens, List.cons_append, List.cons_append, List.cons_append, List.append_assoc]
      show (tokens v ++ (memberTokens ms ++ ts)).foldlM step (.value (.object read k :: frames)) = _
      rw [foldlM_tokens v]
      show (memberTokens ms ++ ts).foldlM step (.afterMember ((k, v) :: read) frames) = _
      rw [foldlM_memberTokens ms, List.reverse_cons, List.append_assoc, List.singleton_append]

end

theorem ofTokens?_tokens (v : Json) : ofTokens? (tokens v) = some v := by
  have hread := foldlM_tokens v [] []
  rw [List.append_nil] at hread
  rw [ofTokens?, hread]
  rfl

/-- **Whoever reads a spelling of a document gets the document.** -/
theorem parse?_of_spells {v : Json} {text : String} (h : Spells v text) : parse? text = some v := by
  have hapart : Apart (tokens v ++ []) :=
    apart_tokens v List.IsChain.nil fun _ ht => absurd ht (by simp)
  rw [List.append_nil] at hapart
  rw [parse?, Token.scan_spelled h hapart]
  exact ofTokens?_tokens v

end StepperMotion.Json
