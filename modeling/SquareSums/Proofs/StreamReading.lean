import SquareSums.Delivery

/-! A stream is read as the text of all that it delivers. Where its chunks are cut and where its reads
are interrupted makes no difference, and the first lasting failure hides everything else. -/

namespace SquareSums

theorem fromUTF8?_eq_some_iff {bytes : ByteArray} {text : String} :
    String.fromUTF8? bytes = some text ↔ text.toUTF8 = bytes := by
  rw [String.fromUTF8?]
  constructor
  · intro decoded
    split at decoded
    · cases decoded
      rfl
    · cases decoded
  · rintro rfl
    exact dif_pos text.isValidUTF8

namespace Delivery

def chunk? : Delivery → Option ByteArray
  | chunk bytes => some bytes
  | interrupted | failure _ => none

def joined (deliveries : List Delivery) : ByteArray :=
  (deliveries.filterMap chunk?).foldr (· ++ ·) ByteArray.empty

/-- No read fails for good. -/
def Lasts (deliveries : List Delivery) : Prop := ∀ reason, failure reason ∉ deliveries

theorem gather_append {earlier : List Delivery} (lasts : Lasts earlier) (read : ByteArray) (later : List Delivery) :
    gather read (earlier ++ later) = gather (read ++ joined earlier) later := by
  induction earlier generalizing read with
  | nil => exact congrArg (gather · later) ByteArray.append_empty.symm
  | cons delivery earlier ih =>
    have rest : Lasts earlier := fun reason member => lasts reason (List.mem_cons_of_mem _ member)
    cases delivery with
    | chunk bytes =>
      rw [List.cons_append, gather, ih rest, ByteArray.append_assoc]
      rfl
    | interrupted => exact ih rest read
    | failure reason => exact absurd List.mem_cons_self (lasts reason)

theorem readAll_eq_joined {deliveries : List Delivery} (lasts : Lasts deliveries) :
    readAll deliveries = .ok (joined deliveries) := by
  have whole := gather_append lasts ByteArray.empty []
  rwa [List.append_nil, ByteArray.empty_append] at whole

/-- What precedes the failure is read in vain, and what would follow it is not read. -/
theorem readAll_append_failure {earlier : List Delivery} (lasts : Lasts earlier) (reason : String)
    (later : List Delivery) : readAll (earlier ++ failure reason :: later) = .error reason := by
  rw [readAll, gather_append lasts]
  rfl

end Delivery

namespace Query

theorem ofBytes_toUTF8 (text : String) : ofBytes text.toUTF8 = ofText text := by
  rw [ofBytes, fromUTF8?_eq_some_iff.mpr rfl]

theorem ofBytes_undecodable {bytes : ByteArray} (undecodable : ∀ text : String, text.toUTF8 ≠ bytes) :
    ofBytes bytes = .error (.unreadable "stream did not contain valid UTF-8") := by
  rw [ofBytes]
  cases decoded : String.fromUTF8? bytes with
  | none => rfl
  | some text => exact absurd (fromUTF8?_eq_some_iff.mp decoded) (undecodable text)

theorem ofStream_eq_ofBytes {deliveries : List Delivery} (lasts : Delivery.Lasts deliveries) :
    ofStream deliveries = ofBytes (Delivery.joined deliveries) := by
  rw [ofStream, Delivery.readAll_eq_joined lasts]

/-- Reading depends on the bytes of a stream alone, and on none of them once a read fails for good. -/
theorem ofStream_delivery_irrelevant (deliveries : List Delivery) :
    (Delivery.Lasts deliveries →
      (∀ text : String, text.toUTF8 = Delivery.joined deliveries → ofStream deliveries = ofText text) ∧
      ((∀ text : String, text.toUTF8 ≠ Delivery.joined deliveries) →
        ofStream deliveries = .error (.unreadable "stream did not contain valid UTF-8")) ∧
      ∀ others, Delivery.Lasts others → Delivery.joined others = Delivery.joined deliveries →
        ofStream others = ofStream deliveries) ∧
    ∀ earlier reason later, deliveries = earlier ++ .failure reason :: later → Delivery.Lasts earlier →
      ofStream deliveries = .error (.unreadable reason) := by
  constructor
  · intro lasts
    rw [ofStream_eq_ofBytes lasts]
    refine ⟨?_, ofBytes_undecodable, ?_⟩
    · intro text encoded
      rw [← encoded, ofBytes_toUTF8]
    · intro others alsoLasts same
      rw [ofStream_eq_ofBytes alsoLasts, same]
  · rintro earlier reason later rfl lasts
    rw [ofStream, Delivery.readAll_append_failure lasts]

/-- A blank of two bytes is cut between them, and the reads are interrupted there. -/
theorem ofStream_delivery_irrelevant_of_cut_blank :
    let stream : List Delivery := [.chunk ⟨#[0x35, 0xC2]⟩, .interrupted, .chunk ⟨#[0xA0, 0x37]⟩]
    let text := "5\u00a07"
    Delivery.Lasts stream ∧ text.toUTF8 = Delivery.joined stream ∧ ofStream stream = ofText text ∧
      ofStream (stream ++ [.failure "gone", .chunk ⟨#[0x30]⟩]) = .error (.unreadable "gone") := by
  intro stream text
  have lasts : Delivery.Lasts stream := by
    intro reason member
    simp [stream] at member
  have encoded : text.toUTF8 = Delivery.joined stream := by decide
  exact ⟨lasts, encoded, ((ofStream_delivery_irrelevant stream).1 lasts).1 text encoded,
    (ofStream_delivery_irrelevant _).2 stream "gone" _ rfl lasts⟩

end Query
end SquareSums
