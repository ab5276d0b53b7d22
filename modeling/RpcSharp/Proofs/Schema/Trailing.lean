import RpcSharp.Proofs.Json.Bracket
import RpcSharp.Proofs.Schema.Record

/-! Nothing behind a document is looked at. A record ends with its bracket, so a text that is read to the
end of the document gives the same with more text, or more bytes, behind it. -/

namespace RpcSharp.Schema

open RpcSharp.Json RpcSharp.Text

namespace Shape

variable {α : Type} {s : Shape α} {a b : α}

theorem finish_closed {seen : List String} {ending : ObjectEnd}
    (finished : s.finish seen a ending = .ok b) : ending = .closed := by
  cases ending with
  | closed => rfl
  | endAfterKey key | missingColon key =>
    obtain ⟨_, _, broken⟩ := bind_eq_ok_iff.mp finished
    contradiction
  | _ => contradiction

theorem readEntries_closed {seen : List String} {ending : ObjectEnd} {es : List (Key × Value)}
    (read : s.readEntries ending seen a es = .ok b) : ending = .closed := by
  induction es generalizing seen a with
  | nil => exact finish_closed read
  | cons e es ih =>
    obtain ⟨key, v⟩ := e
    rw [readEntries, bind_eq_ok_iff] at read
    obtain ⟨name, _, read⟩ := read
    split at read
    · obtain ⟨set, _, rest⟩ := bind_eq_ok_iff.mp read
      exact ih rest
    · split at read
      · contradiction
      · exact ih read

theorem readSlots_closed {ending : ListEnd} {i : Nat} {slots : List (Slot α)} {items : List Value}
    (read : s.readSlots ending i a slots items = .ok b) : ending = .closed := by
  induction items generalizing i a slots with
  | nil =>
    cases ending with
    | closed => rfl
    | _ => cases slots <;> contradiction
  | cons v items ih =>
    cases slots with
    | nil => contradiction
    | cons slot slots =>
      obtain ⟨set, _, rest⟩ := bind_eq_ok_iff.mp read
      exact ih rest

theorem isClosed_of_read {v : Value} (read : s.read v = .ok a) : v.isClosed = true := by
  cases v with
  | object entries ending =>
    cases readEntries_closed read
    rfl
  | list items ending =>
    cases readSlots_closed read
    rfl
  | number n => cases n <;> contradiction
  | string text => cases text <;> contradiction
  | _ => contradiction

end Shape

/-- A document was read to its end, and its names are sound or not. -/
def ReadToEnd (r : Except LoadFault Document) : Prop :=
  (∃ d, r = .ok d) ∨ ∃ category fault, r = .error (.badName category fault)

theorem Document.ofGlyphs_settled {s : List Glyph} (complete : ReadToEnd (ofGlyphs s)) :
    ∃ front c rest, s = front ++ some c :: rest ∧
      ∀ rest', ofGlyphs (front ++ some c :: rest') = ofGlyphs s := by
  unfold ofGlyphs at complete
  split at complete
  · rename_i d read
    obtain ⟨front, c, rest, split, same⟩ := Value.ofText_settled (Shape.isClosed_of_read read)
    refine ⟨front, c, rest, split, fun rest' => ?_⟩
    rw [ofGlyphs, ofGlyphs, same]
  · rcases complete with ⟨d, broken⟩ | ⟨category, fault, broken⟩ <;> cases broken

/-- A text that is read to the end of a document gives the same document, or the same complaint about its
names, with any text behind it; and bytes do with any bytes behind them. -/
theorem trailing_unread (s t : String) (bytes more : List UInt8) :
    (ReadToEnd (Document.ofText s) → Document.ofText (s ++ t) = Document.ofText s) ∧
    (ReadToEnd (Document.ofBytes bytes) →
      Document.ofBytes (bytes ++ more) = Document.ofBytes bytes) := by
  constructor
  · intro complete
    obtain ⟨front, c, rest, split, same⟩ := Document.ofGlyphs_settled complete
    have longer : glyphs (s ++ t) = front ++ some c :: (rest ++ glyphs t) := by
      have joined : glyphs (s ++ t) = glyphs s ++ glyphs t := by simp [glyphs]
      rw [joined, split]
      simp
    rw [Document.ofText, longer, same, Document.ofText]
  · intro complete
    obtain ⟨front, c, rest, split, same⟩ := Document.ofGlyphs_settled complete
    -- More bytes may change what was found behind the bracket, where a character broke off.
    obtain ⟨rest', longer⟩ := decode_extend split more
    rw [Document.ofBytes, longer, same, Document.ofBytes]

/- A number behind the document, which the text that follows makes longer. -/
def numberedText : String := "[[],[],[],[\x7b\"x\":[7,\"\\u00e9\"],\"name\":\"A\"\x7d]] 12"

def slashText : String := "[[],[\x7b\"method\":\"a/b\"\x7d],[],[]]"

/- A character that lacks its last byte. -/
def brokenBytes : List UInt8 := encode "[[],[],[],[]]" ++ [0xe2, 0x82]

theorem numberedText_unread :
    Document.ofText numberedText = .ok { enumTypes := [{ name := "A" }] } ∧
    Document.ofText (numberedText ++ "3]") = .ok { enumTypes := [{ name := "A" }] } ∧
    Document.ofText slashText = .error (.badName .notifications (.notFileName "a/b")) ∧
    Document.ofText (slashText ++ "\"") = .error (.badName .notifications (.notFileName "a/b")) ∧
    Document.ofBytes brokenBytes = .ok {} ∧
    Document.ofBytes (brokenBytes ++ [0xac, 0xff]) = .ok {} := by
  have numbered : Document.ofText numberedText = .ok { enumTypes := [{ name := "A" }] } := by
    decide +kernel
  have slash : Document.ofText slashText = .error (.badName .notifications (.notFileName "a/b")) := by
    decide +kernel
  have broken : Document.ofBytes brokenBytes = .ok {} := by decide +kernel
  refine ⟨numbered, ?_, slash, ?_, broken, ?_⟩
  · rw [(trailing_unread numberedText "3]" [] []).1 (.inl ⟨_, numbered⟩), numbered]
  · rw [(trailing_unread slashText "\"" [] []).1 (.inr ⟨_, _, slash⟩), slash]
  · rw [(trailing_unread "" "" brokenBytes [0xac, 0xff]).2 (.inl ⟨_, broken⟩), broken]

end RpcSharp.Schema
