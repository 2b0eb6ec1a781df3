import Shoes.AnyTls
import Shoes.Lib.RustStr

/-!
# AnyTLS padding

A padding scheme is text of `key=value` lines: `stop`, the number of packets to pad, and for a
packet number a comma-separated list of record sizes, each a range `min-max` of positive bounds or
the check mark `c`. `write_with_padding` writes a packet as records of those sizes: all payload
while the payload is longer than the record, then the rest of the payload with a Waste frame that
fills the record, then records of Waste frames alone, unless a check mark finds the payload
written. The server and the client do this alike (`paddedWrites`).

What is written is the payload followed by Waste frames (`paddedWrites_padding`), and when every
size of the scheme fits the 16-bit length of a frame the peer decodes those frames and nothing
is left over (`drain_wasteFrames`). A size of 65536 or more is written with its length cut to 16
bits: a record of 65536 bytes of padding leaves the peer with two bytes that are no frame
(`padding_record_leaves_partial_frame`).
-/

namespace Shoes.AnyTls

open Wire RustStr

def checkMark : Int := -1

/-- `StringMap`, as `from_bytes` fills it: the key and value of each line that has an `=`. -/
structure StringMap where
  entries : List (List Char × List Char)

/-- `StringMap::from_bytes` on a scheme that is valid UTF-8: each line split at its first `=`. -/
def StringMap.fromText (text : String) : StringMap :=
  ⟨(lines text.toList).filterMap (splitOnce '=')⟩

/-- `StringMap::get`: the value of the last line with the key, which replaced any before it in the
hash map. -/
def StringMap.get (map : StringMap) (key : List Char) : Option (List Char) :=
  (map.entries.reverse.find? (·.1 = key)).map (·.2)

/-- `PaddingFactory`, as padding uses it: the scheme and the number of packets to pad. -/
structure PaddingFactory where
  scheme : StringMap
  stop : Nat

/-- `PaddingFactory::new` on a scheme that is valid UTF-8. -/
def PaddingFactory.new (rawScheme : String) : Except String PaddingFactory :=
  let scheme := StringMap.fromText rawScheme
  match scheme.get "stop".toList with
  | none => .error "missing 'stop' in padding scheme"
  | some value =>
    match parseUnsigned (2 ^ 32) value with
    | none => .error "invalid 'stop' value in padding scheme"
    | some stop => .ok ⟨scheme, stop⟩

def asI32 (value : Int) : Int :=
  (value + 2 ^ 31) % 2 ^ 32 - 2 ^ 31

/-- One part of a packet's sizes in `generate_record_payload_sizes`: the check mark, or a size
from a range of positive bounds, given by `draw` when the bounds differ; `none` for a part that
is skipped. -/
def partSize (draw : Int → Int → Int) (part : List Char) : Option Int :=
  let part := trim part
  if part = ['c'] then some checkMark
  else
    match splitOnce '-' part with
    | none => none
    | some (minStr, maxStr) =>
      match parseSigned (2 ^ 63) (trim minStr), parseSigned (2 ^ 63) (trim maxStr) with
      | some minVal, some maxVal =>
        if 0 < minVal ∧ 0 < maxVal then
          if min minVal maxVal = max minVal maxVal then some (asI32 (min minVal maxVal))
          else some (asI32 (draw (min minVal maxVal) (max minVal maxVal)))
        else none
      | _, _ => none

/-- `PaddingFactory::generate_record_payload_sizes`: the sizes of the packet's spec, the `index`th
part of it drawing from the random number generator as `draw index`. -/
def PaddingFactory.generateRecordPayloadSizes (factory : PaddingFactory)
    (draw : Nat → Int → Int → Int) (pkt : Nat) : List Int :=
  match factory.scheme.get (toString pkt).toList with
  | none => []
  | some spec => ((spec.splitOn ',').zipIdx.filterMap fun (part, index) => partSize (draw index) part)

/-- The Waste frame of `paddingLen` zero bytes that fills a record, written with
`put_u16(padding_len as u16)`. -/
def wasteFrame (paddingLen : Nat) : List UInt8 :=
  (Frame.mk .waste 0 (List.replicate paddingLen 0)).encodeInto

/-- The loop of `write_with_padding` over the sizes of a packet, and the write of what is left of
the payload after it: the writes it makes. A record is all payload while the payload is longer
than it, then the rest of the payload with a Waste frame that fills it, then a Waste frame alone;
a check mark ends the padding once the payload is written. A negative size, an `i32` that wrapped,
is a capacity overflow when the frame is allocated. -/
def paddedWrites : List Int → List UInt8 → Result (List (List UInt8))
  | [], data => .ok (if data.isEmpty then [] else [data])
  | size :: sizes, data =>
    if size = checkMark then
      if data.isEmpty then .ok [] else paddedWrites sizes data
    else if size < 0 then abort
    else if size.toNat < data.length then
      (data.take size.toNat :: ·) <$> paddedWrites sizes (data.drop size.toNat)
    else if 0 < data.length then
      -- `saturating_sub`
      let paddingLen := size.toNat - (data.length + frameHeaderSize)
      ((if 0 < paddingLen then data ++ wasteFrame paddingLen else data) :: ·) <$>
        paddedWrites sizes []
    else (wasteFrame size.toNat :: ·) <$> paddedWrites sizes []

/-- `AnyTlsServerSession::write_with_padding`: the writes of packet `pkt`. -/
def AnyTlsServerSession.writeWithPadding (padding : PaddingFactory)
    (draw : Nat → Int → Int → Int) (data : List UInt8) (pkt : Nat) :
    Result (List (List UInt8)) :=
  let pktSizes := padding.generateRecordPayloadSizes draw pkt
  if pktSizes.isEmpty then .ok [data] else paddedWrites pktSizes data

/-- What the client session keeps for padding: whether it still pads, and the packets counted. -/
structure ClientPadding where
  sendPadding : Bool
  pktCounter : UInt32

/-- `AnyTlsClientSession::write_with_padding`: the packet counted, and padded while its number is
below `stop`. -/
def AnyTlsClientSession.writeWithPadding (padding : PaddingFactory)
    (draw : Nat → Int → Int → Int) (session : ClientPadding) (data : List UInt8) :
    Result (List (List UInt8) × ClientPadding) :=
  if !session.sendPadding then .ok ([data], session)
  else
    let pkt := session.pktCounter + 1
    let session := { session with pktCounter := pkt }
    if padding.stop ≤ pkt.toNat then .ok ([data], { session with sendPadding := false })
    else
      let pktSizes := padding.generateRecordPayloadSizes draw pkt.toNat
      if pktSizes.isEmpty then .ok ([data], session)
      else (·, session) <$> paddedWrites pktSizes data

/-- `FrameCodec::decode` as a call on the buffer of a reading loop. -/
def decodeCall (buf : List UInt8) : Result (Option Frame × List UInt8) :=
  (FrameCodec.decode buf).map fun
    | none => (none, buf)
    | some (frame, rest) => (some frame, rest)

/-- The padding loop writes the payload followed by Waste frames, each no longer than a size of
the packet. The induction follows the sizes. -/
theorem paddedWrites_padding (sizes : List Int)
    (valid : ∀ size ∈ sizes, size = checkMark ∨ 0 ≤ size) :
    ∀ data : List UInt8, ∃ (writes : List (List UInt8)) (pads : List Nat),
      paddedWrites sizes data = .ok writes ∧
      writes.flatten = data ++ (pads.map wasteFrame).flatten ∧
      ∀ pad ∈ pads, ∃ size ∈ sizes, (pad : Int) ≤ size := by
  induction sizes with
  | nil =>
    intro data
    refine ⟨if data.isEmpty then [] else [data], [], rfl, ?_, by simp⟩
    cases data <;> simp
  | cons size sizes ih =>
    intro data
    have validRest : ∀ size ∈ sizes, size = checkMark ∨ 0 ≤ size :=
      fun other listed => valid other (List.mem_cons_of_mem size listed)
    -- the pads of the rest of the packet are bounded by sizes of the whole packet
    have widen {pads : List Nat} (bounded : ∀ pad ∈ pads, ∃ other ∈ sizes, (pad : Int) ≤ other) :
        ∀ pad ∈ pads, ∃ other ∈ size :: sizes, (pad : Int) ≤ other := by
      intro pad listed
      obtain ⟨other, member, below⟩ := bounded pad listed
      exact ⟨other, List.mem_cons_of_mem size member, below⟩
    by_cases checked : size = checkMark
    · by_cases finished : data.isEmpty
      · refine ⟨[], [], by simp [paddedWrites, checked, finished], ?_, by simp⟩
        simp [List.isEmpty_iff.mp finished]
      · obtain ⟨writes, pads, written, flat, bounded⟩ := ih validRest data
        exact ⟨writes, pads, by simp [paddedWrites, checked, finished, written], flat, widen bounded⟩
    · have nonneg : 0 ≤ size := (valid size List.mem_cons_self).resolve_left checked
      have notNeg : ¬size < 0 := Int.not_lt.mpr nonneg
      by_cases payload : size.toNat < data.length
      · -- a record of payload only
        obtain ⟨writes, pads, written, flat, bounded⟩ := ih validRest (data.drop size.toNat)
        refine ⟨data.take size.toNat :: writes, pads, ?_, ?_, widen bounded⟩
        · simp [paddedWrites, checked, notNeg, payload, written]
        · rw [List.flatten_cons, flat, ← List.append_assoc, List.take_append_drop]
      · obtain ⟨writes, pads, written, flat, bounded⟩ := ih validRest []
        rw [List.nil_append] at flat
        by_cases rest : 0 < data.length
        · -- the rest of the payload, and a Waste frame when the record has room for one
          by_cases padded : 0 < size.toNat - (data.length + frameHeaderSize)
          · refine ⟨(data ++ wasteFrame (size.toNat - (data.length + frameHeaderSize))) :: writes,
              (size.toNat - (data.length + frameHeaderSize)) :: pads, ?_, ?_, ?_⟩
            · simp [paddedWrites, checked, notNeg, payload, rest, padded, written]
            · simp [flat]
            · intro pad listed
              rcases List.mem_cons.mp listed with here | there
              · exact ⟨size, List.mem_cons_self, by omega⟩
              · exact widen bounded pad there
          · refine ⟨data :: writes, pads, ?_, by simp [flat], widen bounded⟩
            simp [paddedWrites, checked, notNeg, payload, rest, padded, written]
        · -- a record of padding only
          have empty : data = [] := List.eq_nil_of_length_eq_zero (by omega)
          subst empty
          refine ⟨wasteFrame size.toNat :: writes, size.toNat :: pads, ?_, by simp [flat], ?_⟩
          · simp [paddedWrites, checked, notNeg, written]
          · intro pad listed
            rcases List.mem_cons.mp listed with here | there
            · exact ⟨size, List.mem_cons_self, by omega⟩
            · exact widen bounded pad there

theorem paddedWrites_padding_sample :
    (∀ size ∈ [(5 : Int), 40, checkMark, 3], size = checkMark ∨ 0 ≤ size) ∧
      ∀ data : List UInt8, ∃ (writes : List (List UInt8)) (pads : List Nat),
        paddedWrites [5, 40, checkMark, 3] data = .ok writes ∧
        writes.flatten = data ++ (pads.map wasteFrame).flatten ∧
        ∀ pad ∈ pads, ∃ size ∈ [(5 : Int), 40, checkMark, 3], (pad : Int) ≤ size :=
  ⟨by decide, paddedWrites_padding [5, 40, checkMark, 3] (by decide)⟩

theorem drain_wasteFrames (pads : List Nat) (fit : ∀ pad ∈ pads, pad < 65536) :
    ∀ fuel, pads.length < fuel →
      Framing.drain decodeCall fuel (pads.map wasteFrame).flatten =
        (pads.map fun pad => ⟨.waste, 0, List.replicate pad 0⟩, .ok []) := by
  induction pads with
  | nil =>
    intro fuel enough
    obtain ⟨fuel, rfl⟩ : ∃ smaller, fuel = smaller + 1 := ⟨fuel - 1, by simp at enough; omega⟩
    rfl
  | cons pad pads ih =>
    intro fuel enough
    obtain ⟨fuel, rfl⟩ : ∃ smaller, fuel = smaller + 1 := ⟨fuel - 1, by simp at enough; omega⟩
    have fits : (Frame.mk .waste 0 (List.replicate pad 0)).data.length < 65536 := by
      simpa using fit pad List.mem_cons_self
    have decoded : decodeCall (wasteFrame pad ++ (pads.map wasteFrame).flatten) =
        .ok (some ⟨.waste, 0, List.replicate pad 0⟩, (pads.map wasteFrame).flatten) := by
      simp only [decodeCall, wasteFrame, decode_encodeInto _ fits]
      rfl
    have rest := ih (fun other listed => fit other (List.mem_cons_of_mem pad listed)) fuel
      (by simp at enough; omega)
    simp only [List.map_cons, List.flatten_cons, Framing.drain, decoded, Framing.andThen_ok, rest,
      List.singleton_append]

theorem wasteFrame_length (paddingLen : Nat) :
    (wasteFrame paddingLen).length = frameHeaderSize + paddingLen := by
  simp [wasteFrame, Frame.encodeInto_eq]

theorem writeWithPadding_fitting (padding : PaddingFactory) (draw : Nat → Int → Int → Int)
    (data : List UInt8) (pkt : Nat)
    (fitting : ∀ size ∈ padding.generateRecordPayloadSizes draw pkt,
      size = checkMark ∨ 0 ≤ size ∧ size < 65536) :
    ∃ writes waste, AnyTlsServerSession.writeWithPadding padding draw data pkt = .ok writes ∧
      writes.flatten = data ++ waste ∧
      ∃ frames, Framing.drain decodeCall (waste.length + 1) waste = (frames, .ok []) ∧
        ∀ frame ∈ frames, frame.cmd = .waste ∧ frame.streamId = 0 := by
  by_cases unpadded : (padding.generateRecordPayloadSizes draw pkt).isEmpty
  · refine ⟨[data], [], by simp [AnyTlsServerSession.writeWithPadding, unpadded], by simp, [], rfl,
      by simp⟩
  · obtain ⟨writes, pads, written, flat, bounded⟩ := paddedWrites_padding _
      (fun size listed => (fitting size listed).imp_right And.left) data
    have fit : ∀ pad ∈ pads, pad < 65536 := by
      intro pad listed
      obtain ⟨size, member, below⟩ := bounded pad listed
      rcases fitting size member with mark | ⟨-, small⟩
      · rw [mark, checkMark] at below
        omega
      · omega
    have enough : pads.length < (pads.map wasteFrame).flatten.length + 1 := by
      have longer : pads.length ≤ (pads.map wasteFrame).flatten.length := by
        rw [List.length_flatten, List.map_map]
        calc pads.length = (pads.map fun _ => 1).sum := by simp
          _ ≤ (pads.map (List.length ∘ wasteFrame)).sum := by
            apply List.sum_le_sum
            intro pad _
            simp only [Function.comp_apply, wasteFrame_length, frameHeaderSize]
            omega
      omega
    refine ⟨writes, (pads.map wasteFrame).flatten, ?_, flat, _,
      drain_wasteFrames pads fit _ enough, ?_⟩
    · simp [AnyTlsServerSession.writeWithPadding, unpadded, written]
    · intro frame listed
      obtain ⟨pad, -, rfl⟩ := List.mem_map.mp listed
      exact ⟨rfl, rfl⟩

/-- A scheme padding the first packet to a record of 100 bytes, then checking the payload is out. -/
def recordScheme : PaddingFactory :=
  ⟨StringMap.fromText "stop=2\n1=100-100,c", 2⟩

theorem writeWithPadding_fitting_sample :
    (∀ size ∈ recordScheme.generateRecordPayloadSizes (fun _ _ _ => 0) 1,
        size = checkMark ∨ 0 ≤ size ∧ size < 65536) ∧
      ∃ writes waste, AnyTlsServerSession.writeWithPadding recordScheme (fun _ _ _ => 0) [1, 2, 3] 1 =
          .ok writes ∧ writes.flatten = [1, 2, 3] ++ waste ∧
        ∃ frames, Framing.drain decodeCall (waste.length + 1) waste = (frames, .ok []) ∧
          ∀ frame ∈ frames, frame.cmd = .waste ∧ frame.streamId = 0 :=
  ⟨by decide, writeWithPadding_fitting recordScheme (fun _ _ _ => 0) [1, 2, 3] 1 (by decide)⟩

theorem drain_zeros {rest : Nat} (short : rest < frameHeaderSize) :
    ∀ count fuel, count < fuel →
      Framing.drain decodeCall fuel (List.replicate (frameHeaderSize * count + rest) 0) =
        (List.replicate count ⟨.waste, 0, []⟩, .ok (List.replicate rest 0)) := by
  intro count
  induction count with
  | zero =>
    intro fuel enough
    obtain ⟨fuel, rfl⟩ : ∃ smaller, fuel = smaller + 1 := ⟨fuel - 1, by omega⟩
    have waiting : decodeCall (List.replicate rest 0) = .ok (none, List.replicate rest 0) := by
      simp [decodeCall, FrameCodec.decode, short]
      rfl
    simp [Framing.drain, waiting]
  | succ count ih =>
    intro fuel enough
    obtain ⟨fuel, rfl⟩ : ∃ smaller, fuel = smaller + 1 := ⟨fuel - 1, by omega⟩
    have empty : wasteFrame 0 = List.replicate frameHeaderSize 0 := by decide
    have split : List.replicate (frameHeaderSize * (count + 1) + rest) (0 : UInt8) =
        wasteFrame 0 ++ List.replicate (frameHeaderSize * count + rest) 0 := by
      rw [empty, ← List.replicate_add]
      congr 1
      ring
    have decoded : decodeCall (List.replicate (frameHeaderSize * (count + 1) + rest) 0) =
        .ok (some ⟨.waste, 0, []⟩, List.replicate (frameHeaderSize * count + rest) 0) := by
      rw [split]
      simp only [decodeCall, wasteFrame, decode_encodeInto ⟨.waste, 0, List.replicate 0 0⟩ (by decide)]
      rfl
    simp only [Framing.drain, decoded, Framing.andThen_ok, ih fuel (by omega), List.replicate_succ,
      List.singleton_append]

theorem wasteFrame_wrapped : wasteFrame 65536 = List.replicate (frameHeaderSize * 9363 + 2) 0 := by
  have header : wasteFrame 65536 = List.replicate frameHeaderSize 0 ++ List.replicate 65536 0 := by
    simp only [wasteFrame, Frame.encodeInto, List.length_replicate]
    rfl
  rw [header, ← List.replicate_add]
  congr 1

theorem padding_record_leaves_partial_frame :
    ∃ factory, PaddingFactory.new "stop=2\n1=65536-65536" = .ok factory ∧
      (∀ draw, AnyTlsServerSession.writeWithPadding factory draw [] 1 = .ok [wasteFrame 65536]) ∧
      (∀ draw, AnyTlsClientSession.writeWithPadding factory draw ⟨true, 0⟩ [] =
        .ok ([wasteFrame 65536], ⟨true, 1⟩)) ∧
      Framing.drain decodeCall ((wasteFrame 65536).length + 1) (wasteFrame 65536) =
        (List.replicate 9363 ⟨.waste, 0, []⟩, .ok [0, 0]) := by
  refine ⟨_, rfl, fun draw => rfl, fun draw => rfl, ?_⟩
  rw [wasteFrame_wrapped, List.length_replicate]
  exact drain_zeros (by decide) 9363 _ (by unfold frameHeaderSize; omega)

end Shoes.AnyTls
