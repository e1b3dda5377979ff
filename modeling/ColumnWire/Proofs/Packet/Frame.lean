import Mathlib.Tactic.Common
import ColumnWire.Packet.Client
import ColumnWire.Packet.Server
import ColumnWire.Proofs.Wire.PrefixStable

/-!
# Frames

The packets and parts of packets that are read whole. `Frame` lists their decoders, by the type of
what they take, and `Frame.decoder_prefixStable` shows that what follows the bytes of a frame does
not matter to its decoder. The two decoders with fuel (the information of a block and the links of
an exception) take at least a byte in each round, so that their fuel does not run out before the
bytes do (`BlockInfo.decodeFields_fuel`, `ServerException.links_fuel`). Main statement:
`Frame.decoder_append`, on the answers of a decoder to some bytes and to more of them.
-/

namespace ColumnWire.Packet

open ColumnWire.Wire Decoder

/-- What is read whole, by the type of what is read. -/
inductive Frame : Type → Type where
  /-- The greeting of a client. -/
  | clientHello : Frame ClientHello
  /-- The greeting of a server. -/
  | serverHello : Frame ServerHello
  /-- A query, without the block that follows it. -/
  | query : Frame Query
  /-- A packet of a client with its code. -/
  | clientPacket : Frame ClientPacket
  /-- The information of a block. -/
  | blockInfo : Frame BlockInfo
  /-- A block that has to be empty. -/
  | emptyBlock : Frame BlockInfo
  /-- The header of a block. -/
  | blockHeader : Frame BlockHeader
  /-- Counters of the running query. -/
  | progress : Frame Progress
  /-- Counters of the whole query. -/
  | profileInfo : Frame ProfileInfo
  /-- An exception with its causes. -/
  | exception : Frame ServerException

/-- The decoder of a frame. -/
def Frame.decoder {α : Type} : Frame α → Decoder α
  | .clientHello => ClientHello.decoder
  | .serverHello => ServerHello.decoder
  | .query => Query.decoder
  | .clientPacket => ClientPacket.decoder
  | .blockInfo => BlockInfo.decoder
  | .emptyBlock => Packet.emptyBlock
  | .blockHeader => BlockHeader.decoder
  | .progress => Progress.decoder
  | .profileInfo => ProfileInfo.decoder
  | .exception => ServerException.decoder

/-! ## Queries and greetings -/

/-- Taking a number and what it stands for is stable if refusals do not ask for more bytes. -/
lemma numbered_prefixStable {α : Type} {ofNumber? : UInt64 → Except WireError α}
    (h : ∀ n e, ofNumber? n = .error e → e.isIncomplete = false) :
    PrefixStable (numbered ofNumber?) := by
  refine Varint.decoder_prefixStable.bind fun n => ?_
  cases hn : ofNumber? n with
  | ok a => exact .pure a
  | error e => exact .throw (h n e hn)

/-- A number without a code is refused. -/
lemma ClientCode.ofNumber?_error {n : UInt64} {e : WireError} (h : ofNumber? n = .error e) :
    e = .unknownClientCode n := by
  unfold ofNumber? at h
  split at h <;> cases h
  rfl

/-- A number with a code is that of the code. -/
lemma ServerCode.number_of_ofNumber? {n : UInt64} {c : ServerCode} (h : ofNumber? n = .ok c) :
    n = c.number := by
  unfold ofNumber? at h
  split at h <;> cases h
  all_goals
    rename_i hn
    exact UInt64.toNat_inj.1 hn

/-- A number without a kind is refused. -/
lemma QueryKind.ofNumber?_error {n : UInt64} {e : WireError} (h : ofNumber? n = .error e) :
    e = .malformed (.queryKind n) := by
  unfold ofNumber? at h
  split at h <;> cases h
  rfl

/-- A number without a stage is refused. -/
lemma QueryStage.ofNumber?_error {n : UInt64} {e : WireError} (h : ofNumber? n = .error e) :
    e = .malformed (.queryStage n) := by
  unfold ofNumber? at h
  split at h <;> cases h
  rfl

/-- A number without a state is refused. -/
lemma Compression.ofNumber?_error {n : UInt64} {e : WireError} (h : ofNumber? n = .error e) :
    e = .malformed (.compression n) := by
  unfold ofNumber? at h
  split at h <;> cases h
  rfl

/-- Taking the information about a query is stable. -/
lemma ClientInfo.decoder_prefixStable : PrefixStable ClientInfo.decoder := by
  have hvarint := Varint.decoder_prefixStable
  have htext := TextField.decoder_prefixStable
  refine (numbered_prefixStable fun n e h => by rw [QueryKind.ofNumber?_error h]; rfl).bind
    fun _ => ?_
  exact htext.bind fun _ => htext.bind fun _ => htext.bind fun _ => hvarint.bind fun _ =>
    htext.bind fun _ => hvarint.bind fun _ => hvarint.bind fun _ => hvarint.bind fun _ =>
      htext.bind fun _ => .pure _

/-- Takes the fields of a query behind the secret that servers share. -/
def Query.behindSecret (queryId : String) (clientInfo : ClientInfo) (settings : List (String × String))
    (interserverSecret : String) : Decoder Query := do
  let stage ← numbered QueryStage.ofNumber?
  let compression ← numbered Compression.ofNumber?
  let text ← TextField.decoder
  if clientInfo.revision.hasParameters then
    let _ ← TextField.decoder
  pure { queryId, clientInfo, settings, interserverSecret, stage, compression, text }

/-- Taking these fields is stable. -/
lemma Query.behindSecret_prefixStable (queryId : String) (info : ClientInfo)
    (settings : List (String × String)) (secret : String) :
    PrefixStable (behindSecret queryId info settings secret) := by
  have htext := TextField.decoder_prefixStable
  refine (numbered_prefixStable fun n e h => by rw [QueryStage.ofNumber?_error h]; rfl).bind
    fun _ => ?_
  refine (numbered_prefixStable fun n e h => by rw [Compression.ofNumber?_error h]; rfl).bind
    fun _ => htext.bind fun _ => ?_
  exact .ite (htext.bind fun _ => .pure _) (.pure _)

/-- Taking a query is stable. -/
lemma Query.decoder_prefixStable : PrefixStable Query.decoder := by
  have htext := TextField.decoder_prefixStable
  refine htext.bind fun queryId => ClientInfo.decoder_prefixStable.bind fun info =>
    Varint.decoder_prefixStable.bind fun n =>
      (TextField.pair_prefixStable.repeated n.toNat).bind fun settings => htext.bind fun _ => ?_
  have hfields (secret : String) := behindSecret_prefixStable queryId info settings secret
  refine .ite (.bind (.throw rfl) fun _ => ?_) ?_
  all_goals exact .ite (htext.bind hfields) (.bind (.pure _) hfields)

/-- Taking the greeting of a client is stable. -/
lemma ClientHello.decoder_prefixStable : PrefixStable ClientHello.decoder := by
  have hvarint := Varint.decoder_prefixStable
  have htext := TextField.decoder_prefixStable
  exact htext.bind fun _ => hvarint.bind fun _ => hvarint.bind fun _ => hvarint.bind fun _ =>
    htext.bind fun _ => htext.bind fun _ => htext.bind fun _ => .pure _

/-- Taking the greeting of a server is stable, whatever fields its revision has. -/
lemma ServerHello.decoder_prefixStable : PrefixStable ServerHello.decoder := by
  have hvarint := Varint.decoder_prefixStable
  have htext := TextField.decoder_prefixStable
  refine htext.bind fun _ => hvarint.bind fun _ => hvarint.bind fun _ => hvarint.bind fun n => ?_
  refine .ite (htext.bind fun _ => ?_) (.bind (.pure _) fun _ => ?_)
  all_goals refine .ite (htext.bind fun _ => ?_) (.bind (.pure _) fun _ => ?_)
  all_goals exact .ite (hvarint.bind fun _ => .pure _) (.bind (.pure _) fun _ => .pure _)

/-! ## Blocks -/

/-- With any fuel, taking the fields of a block is stable. -/
lemma BlockInfo.decodeFields_prefixStable (fuel : Nat) (info : BlockInfo) :
    PrefixStable (decodeFields fuel info) := by
  induction fuel generalizing info with
  | zero => exact .throw_incomplete_one
  | succ fuel ih =>
      refine Varint.decoder_prefixStable.bind fun tag => ?_
      split
      · exact .pure _
      · exact Varint.flag_prefixStable.bind fun _ => ih _
      · exact Varint.decoder_prefixStable.bind fun _ => ih _
      · exact .throw rfl

/-- More fuel than bytes makes no difference to the fields of a block. -/
lemma BlockInfo.decodeFields_fuel {m n : Nat} {p : Bytes} (hm : p.length ≤ m) (hn : p.length ≤ n)
    (info : BlockInfo) : decodeFields m info p = decodeFields n info p := by
  induction m generalizing n p info with
  | zero =>
      obtain rfl : p = [] := List.length_eq_zero_iff.1 (by omega)
      cases n <;> rfl
  | succ m ih =>
      cases n with
      | zero =>
          obtain rfl : p = [] := List.length_eq_zero_iff.1 (by omega)
          rfl
      | succ n =>
          -- The tag takes a byte, so the fields behind it have fewer bytes than the fuel left.
          refine Varint.decoder_consuming.bind_congr fun tag r hr => ?_
          generalize tag.toNat = number
          match number with
          | 0 => rfl
          | 1 => exact Varint.flag_prefixStable.bind_congr fun _ r' hr' => ih (by omega) (by omega) _
          | 2 =>
              exact Varint.decoder_prefixStable.bind_congr fun _ r' hr' =>
                ih (by omega) (by omega) _
          | _ + 3 => rfl

/-- Taking the information of a block is stable. -/
lemma BlockInfo.decoder_prefixStable : PrefixStable BlockInfo.decoder :=
  .of_fuel (fun fuel => decodeFields_prefixStable fuel {}) fun hm hn => decodeFields_fuel hm hn {}

/-- Taking a block that has to be empty is stable. -/
lemma emptyBlock_prefixStable : PrefixStable Packet.emptyBlock := by
  refine BlockInfo.decoder_prefixStable.bind fun _ => Varint.decoder_prefixStable.bind fun _ =>
    Varint.decoder_prefixStable.bind fun _ => ?_
  exact .ite (.bind (.throw rfl) fun _ => .pure _) (.pure _)

/-- Taking the declaration of a column is stable. -/
lemma BlockHeader.column_prefixStable : PrefixStable BlockHeader.column :=
  TextField.decoder_prefixStable.bind fun _ => TextField.decoder_prefixStable.bind fun _ => .pure _

/-- Taking the header of a block is stable. -/
lemma BlockHeader.decoder_prefixStable : PrefixStable BlockHeader.decoder := by
  have hvarint := Varint.decoder_prefixStable
  refine BlockInfo.decoder_prefixStable.bind fun _ => hvarint.bind fun tables =>
    (TextField.decoder_prefixStable.repeated tables.toNat).bind fun _ => hvarint.bind fun count =>
      hvarint.bind fun rows => ?_
  have hcolumns := column_prefixStable.repeated count.toNat
  exact .ite (.bind (.throw rfl) fun _ => hcolumns.bind fun _ => .pure _)
    (hcolumns.bind fun _ => .pure _)

/-! ## Packets of a server -/

/-- Taking counters of the running query is stable. -/
lemma Progress.decoder_prefixStable : PrefixStable Progress.decoder := by
  have hvarint := Varint.decoder_prefixStable
  exact hvarint.bind fun _ => hvarint.bind fun _ => hvarint.bind fun _ => .pure _

/-- Taking counters of the whole query is stable. -/
lemma ProfileInfo.decoder_prefixStable : PrefixStable ProfileInfo.decoder := by
  have hvarint := Varint.decoder_prefixStable
  exact hvarint.bind fun _ => hvarint.bind fun _ => hvarint.bind fun _ => .pure _

/-- What follows the code of a fault is taken stably. -/
lemma ServerException.link_tail_prefixStable (code : UInt64) :
    PrefixStable (do
      let name ← TextField.decoder
      let message ← TextField.decoder
      let stackTrace ← TextField.decoder
      let more ← Varint.flag
      pure (({ code, name, message, stackTrace } : Fault), more)) := by
  have htext := TextField.decoder_prefixStable
  exact htext.bind fun _ => htext.bind fun _ => htext.bind fun _ =>
    Varint.flag_prefixStable.bind fun _ => .pure _

/-- Taking a fault is stable. -/
lemma ServerException.link_prefixStable : PrefixStable link :=
  Varint.decoder_prefixStable.bind link_tail_prefixStable

/-- A fault takes a byte or more. -/
lemma ServerException.link_consuming : Consuming link :=
  Varint.decoder_consuming.bind link_tail_prefixStable

/-- With any fuel, taking links is stable. -/
lemma ServerException.links_prefixStable (fuel : Nat) (stack : List ServerException) :
    PrefixStable (links fuel stack) := by
  induction fuel generalizing stack with
  | zero => exact .throw_incomplete_one
  | succ fuel ih =>
      refine link_prefixStable.bind fun ⟨f, more⟩ => ?_
      exact .ite (ih _) (.pure _)

/-- More fuel than bytes makes no difference to the links. -/
lemma ServerException.links_fuel {m n : Nat} {p : Bytes} (hm : p.length ≤ m) (hn : p.length ≤ n)
    (stack : List ServerException) : links m stack p = links n stack p := by
  induction m generalizing n p stack with
  | zero =>
      obtain rfl : p = [] := List.length_eq_zero_iff.1 (by omega)
      cases n <;> rfl
  | succ m ih =>
      cases n with
      | zero =>
          obtain rfl : p = [] := List.length_eq_zero_iff.1 (by omega)
          rfl
      | succ n =>
          refine link_consuming.bind_congr fun ⟨f, more⟩ r hr => ?_
          cases more with
          | false => rfl
          | true => exact ih (by omega) (by omega) _

/-- Nesting links asks for no bytes. -/
lemma ServerException.assemble_prefixStable (stack : List ServerException) :
    PrefixStable (assemble stack) := by
  unfold assemble
  split
  · exact .pure _
  · exact .throw rfl

/-- Taking an exception is stable. -/
lemma ServerException.decoder_prefixStable : PrefixStable ServerException.decoder := by
  refine .of_fuel (fun fuel => (links_prefixStable fuel []).bind assemble_prefixStable) ?_
  intro m n p hm hn
  simp only [bind, EStateM.bind, links_fuel hm hn []]

/-! ## All frames -/

/-- What follows the bytes of a frame does not matter to its decoder. -/
theorem Frame.decoder_prefixStable {α : Type} (f : Frame α) : PrefixStable f.decoder := by
  cases f with
  | clientHello => exact ClientHello.decoder_prefixStable
  | serverHello => exact ServerHello.decoder_prefixStable
  | query => exact Query.decoder_prefixStable
  | clientPacket =>
      refine (numbered_prefixStable fun n e h => by rw [ClientCode.ofNumber?_error h]; rfl).bind
        fun code => ?_
      cases code with
      | hello => exact ClientHello.decoder_prefixStable.bind fun _ => .pure _
      | query =>
          exact Query.decoder_prefixStable.bind fun _ => emptyBlock_prefixStable.bind fun _ => .pure _
      | data =>
          exact TextField.decoder_prefixStable.bind fun _ =>
            emptyBlock_prefixStable.bind fun _ => .pure _
      | cancel => exact .pure _
      | ping => exact .pure _
  | blockInfo => exact BlockInfo.decoder_prefixStable
  | emptyBlock => exact emptyBlock_prefixStable
  | blockHeader => exact BlockHeader.decoder_prefixStable
  | progress => exact Progress.decoder_prefixStable
  | profileInfo => exact ProfileInfo.decoder_prefixStable
  | exception => exact ServerException.decoder_prefixStable

/-- What a frame's decoder answers from some bytes it answers from more of them: the value from the same
bytes, and the refusal with the same error. Where it asks for `k` more bytes, `k` is one or more, and with
fewer than `k` it goes on asking. -/
theorem Frame.decoder_append {α : Type} (f : Frame α) (p q : Bytes) :
    (∀ v r, f.decoder p = .ok v r → ∃ w, p = w ++ r ∧ f.decoder (p ++ q) = .ok v (r ++ q)) ∧
    (∀ e r, f.decoder p = .error e r → e.isIncomplete = false →
      ∃ r', f.decoder (p ++ q) = .error e r') ∧
    ∀ k r, f.decoder p = .error (.incomplete k) r →
      1 ≤ k ∧ (q.length < k → ∃ k' r', f.decoder (p ++ q) = .error (.incomplete k') r') := by
  have hstable := f.decoder_prefixStable
  refine ⟨fun v r h => ?_, fun e r h he => hstable.refused h he q, fun k r h => ?_⟩
  · obtain ⟨w, rfl, hw⟩ := hstable.taken h
    refine ⟨w, rfl, ?_⟩
    rw [List.append_assoc]
    exact hw (r ++ q)
  · obtain ⟨hk, hmissing⟩ := hstable.short h
    exact ⟨hk, hmissing q⟩

/-- Counters with a byte behind them, a block with an unknown field, and an exception whose name lacks two
bytes, each with a byte more. -/
theorem Frame.decoder_append_byte :
    (∃ w : Bytes, [1, 2, 3, 9] = w ++ [9] ∧
      Progress.decoder ([1, 2, 3, 9] ++ [7]) = .ok { rows := 1, bytes := 2, totalRows := 3 } [9, 7]) ∧
    (∃ r, BlockInfo.decoder ([5] ++ [7]) = .error (.unknownBlockField 5) r) ∧
    1 ≤ 2 ∧ ∃ k r, ServerException.decoder ([60, 3, 68] ++ [66]) = .error (.incomplete k) r := by
  obtain ⟨hvalue, -⟩ := Frame.progress.decoder_append [1, 2, 3, 9] [7]
  obtain ⟨-, hrefusal, -⟩ := Frame.blockInfo.decoder_append [5] [7]
  obtain ⟨-, -, hmissing⟩ := Frame.exception.decoder_append [60, 3, 68] [66]
  obtain ⟨hk, hmore⟩ := hmissing 2 [68] rfl
  exact ⟨hvalue ⟨1, 2, 3⟩ [9] rfl, hrefusal _ [] rfl rfl, hk, hmore (by decide)⟩

end ColumnWire.Packet
