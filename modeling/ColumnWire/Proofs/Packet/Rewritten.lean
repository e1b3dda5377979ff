import Mathlib.Tactic.Common
import ColumnWire.Proofs.Packet.ClientRoundTrip
import ColumnWire.Proofs.Wire.Layout

/-!
# Queries that are written as they were read

Bytes that are taken as a query, and in which every number is in its shortest form, are those that are
written for the query, from its id to its text: every field is kept, and the name that ends the settings
is checked (`Query.decoder_eq_ok`). The exception is the place of the parameters, which is read and not
looked at (`Query.parameters_dropped`). Main statement: `Query.encode_eq_iff`.

The layout of the decoder follows the decoder field by field, and so does its inversion.
-/

namespace ColumnWire.Packet

open ColumnWire.Wire Decoder

/-! ## Numbers that stand for something -/

/-- Nothing: a number that was read stands for something or not. -/
def standing {α : Type} : (x : Except WireError α) →
    Layout (match x with | .ok a => (pure a : Decoder α) | .error e => throw e)
  | .ok a => .settled a
  | .error e => .refused e

/-- The number. -/
def numberedLayout {α : Type} (ofNumber? : UInt64 → Except WireError α) :
    Layout (numbered ofNumber?) :=
  Layout.number.seq fun n => standing (ofNumber? n)

/-- What a number stands for is written as it was read, if no other number stands for it. -/
lemma numberedLayout_exact {α : Type} {ofNumber? : UInt64 → Except WireError α} {number : α → UInt64}
    (h : ∀ {n a}, ofNumber? n = .ok a → n = number a) :
    (numberedLayout ofNumber?).Exact fun a => Varint.encode (number a) := by
  intro p v r hv hs
  obtain ⟨n, t, rfl, hv, -⟩ := Layout.number_exact.seq hv hs
  cases hn : ofNumber? n with
  | error e =>
      rw [hn] at hv
      cases hv
  | ok a =>
      rw [hn] at hv
      cases hv
      rw [h hn]

/-- A number with a kind is that of the kind. -/
lemma QueryKind.number_of_ofNumber? {n : UInt64} {k : QueryKind} (h : ofNumber? n = .ok k) :
    n = k.number := by
  unfold ofNumber? at h
  split at h <;> cases h
  all_goals
    rename_i hn
    exact UInt64.toNat_inj.1 hn

/-- A number with a stage is that of the stage. -/
lemma QueryStage.number_of_ofNumber? {n : UInt64} {s : QueryStage} (h : ofNumber? n = .ok s) :
    n = s.number := by
  unfold ofNumber? at h
  split at h <;> cases h
  all_goals
    rename_i hn
    exact UInt64.toNat_inj.1 hn

/-- A number with a state is that of the state. -/
lemma Compression.number_of_ofNumber? {n : UInt64} {c : Compression} (h : ofNumber? n = .ok c) :
    n = c.number := by
  unfold ofNumber? at h
  split at h <;> cases h
  all_goals
    rename_i hn
    exact UInt64.toNat_inj.1 hn

/-! ## Fields -/

/-- The fields of what is said about who asks. -/
def ClientInfo.layout : Layout ClientInfo.decoder :=
  (numberedLayout QueryKind.ofNumber?).seq fun _ => TextField.layout.seq fun _ =>
    TextField.layout.seq fun _ => TextField.layout.seq fun _ => Layout.number.seq fun _ =>
      TextField.layout.seq fun _ => Layout.number.seq fun _ => Layout.number.seq fun _ =>
        Layout.number.seq fun _ => TextField.layout.seq fun _ => .settled _

/-- What is said about who asks is written as it was read. -/
lemma ClientInfo.layout_exact : layout.Exact encode := by
  intro p i r h hs
  obtain ⟨kind, t, rfl, h, hs⟩ := (numberedLayout_exact QueryKind.number_of_ofNumber?).seq h hs
  obtain ⟨initialUser, t, rfl, h, hs⟩ := TextField.layout_exact.seq h hs
  obtain ⟨initialQueryId, t, rfl, h, hs⟩ := TextField.layout_exact.seq h hs
  obtain ⟨initialAddress, t, rfl, h, hs⟩ := TextField.layout_exact.seq h hs
  obtain ⟨revision, t, rfl, h, hs⟩ := Layout.number_exact.seq h hs
  obtain ⟨clientName, t, rfl, h, hs⟩ := TextField.layout_exact.seq h hs
  obtain ⟨versionMajor, t, rfl, h, hs⟩ := Layout.number_exact.seq h hs
  obtain ⟨versionMinor, t, rfl, h, hs⟩ := Layout.number_exact.seq h hs
  obtain ⟨versionPatch, t, rfl, h, hs⟩ := Layout.number_exact.seq h hs
  obtain ⟨quotaKey, t, rfl, h, -⟩ := TextField.layout_exact.seq h hs
  cases h
  simp only [encode, List.append_assoc]

namespace Query

/-- The fields behind the secret. -/
def behindSecretLayout (queryId : String) (clientInfo : ClientInfo)
    (settings : List (String × String)) (interserverSecret : String) :
    Layout (behindSecret queryId clientInfo settings interserverSecret) :=
  (numberedLayout QueryStage.ofNumber?).seq fun _ =>
    (numberedLayout Compression.ofNumber?).seq fun _ => TextField.layout.seq fun _ =>
      .choice _ (TextField.layout.seq fun _ => .settled _) (.settled _)

/-- The fields behind the end of the settings. -/
def behindSettingsLayout (queryId : String) (info : ClientInfo) (settings : List (String × String)) :
    Layout (if info.revision.hasInterserverSecret then
        TextField.decoder >>= behindSecret queryId info settings
      else pure "" >>= behindSecret queryId info settings) :=
  .choice _
    (TextField.layout.seq fun secret => behindSecretLayout queryId info settings secret)
    ((Layout.settled "").seq fun secret => behindSecretLayout queryId info settings secret)

/-- The fields of a query. -/
def layout : Layout Query.decoder :=
  TextField.layout.seq fun queryId => ClientInfo.layout.seq fun info => Layout.number.seq fun count =>
    (TextField.pairLayout.repeated count.toNat).seq fun settings =>
      TextField.layout.seq fun settingsEnd =>
        .choice (settingsEnd ≠ "")
          ((Layout.refused (.malformed (.settingsEnd settingsEnd))).seq fun _ =>
            behindSettingsLayout queryId info settings)
          (behindSettingsLayout queryId info settings)

/-- The fields behind the secret, with a text at the place of the parameters. -/
def tailWith (q : Query) (parameters : String) : Bytes :=
  q.middle ++ if q.revision.hasParameters then TextField.encode parameters else []

/-- The bytes behind the code, with a text at the place of the parameters. -/
def bodyWith (q : Query) (parameters : String) : Bytes :=
  q.front ++
    ((if q.revision.hasInterserverSecret then TextField.encode q.interserverSecret else []) ++
      q.tailWith parameters)

/-- The parameters are written as an empty text. -/
lemma encodeBody_eq_bodyWith (q : Query) : q.encodeBody = q.bodyWith "" := by
  simp only [encodeBody, bodyWith, tailWith, front, middle, List.append_assoc]

variable {queryId secret : String} {info : ClientInfo} {settings : List (String × String)}
  {p r : Bytes} {q : Query}

/-- The fields behind the secret are written as they were read, up to the parameters. -/
lemma behindSecret_eq_ok (h : behindSecret queryId info settings secret p = .ok q r)
    (hs : (behindSecretLayout queryId info settings secret).Shortest p) :
    ∃ stage compression text parameters,
      q = { queryId, clientInfo := info, settings, interserverSecret := secret, stage, compression,
            text } ∧ p = q.tailWith parameters ++ r := by
  obtain ⟨stage, t, rfl, h, hs⟩ := (numberedLayout_exact QueryStage.number_of_ofNumber?).seq h hs
  obtain ⟨compression, t, rfl, h, hs⟩ :=
    (numberedLayout_exact Compression.number_of_ofNumber?).seq h hs
  obtain ⟨text, t, rfl, h, hs⟩ := TextField.layout_exact.seq h hs
  by_cases hparameters : info.revision.hasParameters = true
  · rw [if_pos hparameters] at h
    obtain ⟨parameters, t, rfl, h, -⟩ := TextField.layout_exact.seq h (hs.of_pos hparameters)
    cases h
    refine ⟨stage, compression, text, parameters, rfl, ?_⟩
    rw [tailWith, if_pos]
    · simp only [middle, List.append_assoc]
    · exact hparameters
  · rw [if_neg hparameters] at h
    cases h
    refine ⟨stage, compression, text, "", rfl, ?_⟩
    rw [tailWith, if_neg]
    · simp only [middle, List.append_assoc, List.nil_append]
    · exact hparameters

/-- A query is written as it was read, up to the parameters. -/
lemma decoder_eq_ok (h : Query.decoder p = .ok q r) (hs : layout.Shortest p) :
    ∃ parameters, p = q.bodyWith parameters ++ r := by
  obtain ⟨queryId, t, rfl, h, hs⟩ := TextField.layout_exact.seq h hs
  obtain ⟨info, t, rfl, h, hs⟩ := ClientInfo.layout_exact.seq h hs
  obtain ⟨count, t, rfl, h, hs⟩ := Layout.number_exact.seq h hs
  obtain ⟨settings, t, hsettings, hrepeated, hend, hsend⟩ := Layout.seq_eq_ok h hs
  obtain ⟨hcount, rfl⟩ := Layout.repeated_exact TextField.pairLayout_exact hsettings hrepeated
  have hnumber : count = UInt64.ofNat settings.length := by rw [hcount, UInt64.ofNat_toNat]
  obtain ⟨settingsEnd, t, rfl, hchoice, hschoice⟩ := TextField.layout_exact.seq hend hsend
  obtain rfl : settingsEnd = "" := by
    by_contra hnonempty
    rw [if_pos hnonempty] at hchoice
    cases hchoice
  have hempty : ¬ ("" : String) ≠ "" := fun h => h rfl
  rw [if_neg hempty] at hchoice
  have hsecrets := hschoice.of_neg hempty
  by_cases hsecret : info.revision.hasInterserverSecret = true
  · rw [if_pos hsecret] at hchoice
    obtain ⟨secret, t, rfl, hrest, hsrest⟩ :=
      TextField.layout_exact.seq hchoice (hsecrets.of_pos hsecret)
    obtain ⟨stage, compression, text, parameters, rfl, rfl⟩ := behindSecret_eq_ok hrest hsrest
    refine ⟨parameters, ?_⟩
    rw [bodyWith, if_pos, hnumber]
    · simp only [front, List.append_assoc]
    · exact hsecret
  · rw [if_neg hsecret] at hchoice
    obtain ⟨secret, t, hnone, -, hrest, hsrest⟩ :=
      Layout.seq_eq_ok hchoice (hsecrets.of_neg hsecret)
    cases hnone
    obtain ⟨stage, compression, text, parameters, rfl, rfl⟩ := behindSecret_eq_ok hrest hsrest
    refine ⟨parameters, ?_⟩
    rw [bodyWith, if_neg, hnumber]
    · simp only [front, List.append_assoc, List.nil_append]
    · exact hsecret

/-- Only the empty text is written as the empty one. -/
lemma eq_empty_of_encode {s : String} (h : TextField.encode s = TextField.encode "") : s = "" := by
  have hlength := congrArg List.length h
  have hpos := encode_length_pos (UInt64.ofNat (utf8 s).length)
  rw [TextField.encode, BinaryField.encode, List.length_append,
    show (TextField.encode "").length = 1 by decide] at hlength
  have hnone : utf8 s = utf8 "" := List.length_eq_zero_iff.1 (by omega)
  have hsame := ofUtf8?_utf8 s
  rw [hnone, ofUtf8?_utf8] at hsame
  exact (Option.some.inj hsame).symm

/-- What stands at the place of the parameters is seen in the bytes if and only if there is such a place. -/
lemma bodyWith_empty_iff {s : String} :
    q.bodyWith "" = q.bodyWith s ↔ (q.revision.hasParameters = true → s = "") := by
  unfold bodyWith tailWith
  simp only [List.append_cancel_left_eq]
  by_cases hparameters : q.revision.hasParameters = true
  · rw [if_pos hparameters, if_pos hparameters]
    constructor
    · intro hsame _
      exact eq_empty_of_encode hsame.symm
    · intro hempty
      rw [hempty hparameters]
  · rw [if_neg hparameters, if_neg hparameters]
    exact iff_of_true rfl fun h => absurd h hparameters

/-- A query that takes all of some bytes, in which every number is in its shortest form, is written as
these bytes except at the place of the parameters: where a revision has them, any text is read there and
an empty one is written. So it is written as it was read if and only if there was no other text. -/
theorem encode_eq_iff {b : Bytes} (h : Query.decoder b = .ok q []) (hs : layout.Shortest b) :
    ∃ parameters,
      b = q.bodyWith parameters ∧ q.encode = ClientCode.query.encode ++ q.bodyWith "" ∧
        (q.encode = ClientCode.query.encode ++ b ↔
          (q.revision.hasParameters = true → parameters = "")) := by
  obtain ⟨parameters, hb⟩ := decoder_eq_ok h hs
  rw [List.append_nil] at hb
  have hwritten : q.encode = ClientCode.query.encode ++ q.bodyWith "" := by
    rw [encode, encodeBody_eq_bodyWith]
  refine ⟨parameters, hb, hwritten, ?_⟩
  rw [hwritten, hb, List.append_cancel_left_eq]
  exact bodyWith_empty_iff

/-- A query of a revision with a secret and parameters, with a setting. -/
def sample : Query :=
  { Query.new "SELECT 1" "u" ⟨54460⟩ with settings := [("readonly", "1")], interserverSecret := "s" }

/-- This query is written as it was read with nothing at the place of the parameters, and not with a text
there. -/
theorem encode_eq_iff_sample :
    sample.encode = ClientCode.query.encode ++ sample.bodyWith "" ∧
      sample.encode ≠ ClientCode.query.encode ++ sample.bodyWith "x" := by
  obtain ⟨-, -, hwritten, -⟩ := encode_eq_iff (b := sample.bodyWith "") (q := sample) rfl
    (by decide +kernel)
  obtain ⟨s, hs, -, hiff⟩ := encode_eq_iff (b := sample.bodyWith "x") (q := sample) rfl
    (by decide +kernel)
  refine ⟨hwritten, fun hsame => ?_⟩
  have hempty : s = "" := hiff.1 hsame (by decide)
  rw [hempty] at hs
  exact absurd hs (by decide +kernel)

/-- A text at the place of the parameters is read and dropped. -/
theorem parameters_dropped :
    ¬ ∀ (b : Bytes) (q : Query), Query.decoder b = .ok q [] → layout.Shortest b →
      q.encode = ClientCode.query.encode ++ b := by
  intro h
  have hsame := h (sample.bodyWith "x") sample rfl (by decide +kernel)
  exact absurd hsame (by decide +kernel)

end Query

end ColumnWire.Packet
