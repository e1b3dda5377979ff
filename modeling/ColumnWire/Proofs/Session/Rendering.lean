import Mathlib.Data.List.Forall2
import Mathlib.Tactic.Common
import ColumnWire.Proofs.Session.Address
import ColumnWire.Proofs.Text.FormEncoded
import ColumnWire.Session.ConnectionString

/-!
# Connection strings of configurations

What reading makes of the connection string of a configuration whose fields do not contain the marks that
end them (`Config.Delimited`). Each cut finds the mark that was written for it (`ofChars_render`): the
fields come back, except that hosts are read from their texts, and blanks behind a database are lost when
nothing is written behind it (`Config.restoredDatabase`). The options come back with the values that they
were written for (`applyOptions_optionPairs`); of the way they are encoded only `FormCoding` is used.

Main statement: `Config.parse_connectionString`, for the configurations that a connection string can tell.
-/

namespace ColumnWire.Session.Config

open ColumnWire.Text ColumnWire.Wire ColumnWire.Time ColumnWire.Number

/-- The names of the options that have a meaning. -/
def recognised : List String :=
  ["compression", "connect_timeout", "send_receive_timeout", "retry_timeout", "retry_count"]

/-- No field contains a mark that ends it in a connection string, and none that has to be there is
missing. -/
structure Delimited (c : Config) : Prop where
  /-- There is a host. -/
  hosts : c.hosts ≠ []
  /-- Hosts are separated by commas, and stand between the credentials and the database or the options. -/
  host : ∀ a ∈ c.hosts, ∀ x ∈ a.host.toList, x ∉ [',', '/', '?', '@']
  /-- An empty user would be the default one. -/
  user_ne : c.user ≠ ""
  /-- A user ends at a colon. -/
  user : ∀ x ∈ c.user.toList, x ∉ [':', '/', '?']
  /-- A password ends at the last at-sign before the database. -/
  password : ∀ x ∈ c.password.toList, x ∉ ['/', '?']
  /-- An empty database would be the default one. -/
  database_ne : c.database ≠ ""
  /-- A database ends at a question mark. -/
  database : '?' ∉ c.database.toList
  /-- Options with a meaning are fields. -/
  options : ∀ p ∈ c.options.entries, p.1 ∉ recognised

variable {c : Config} {rest s : List Char}

/-! ## The parts of a connection string -/

/-- The credentials, if they are not the default ones. -/
def credentialChars (c : Config) : List Char :=
  if c.user ≠ ({} : Config).user ∨ c.password ≠ "" then
    c.user.toList ++ ':' :: c.password.toList ++ ['@']
  else []

/-- The hosts. -/
def hostChars (c : Config) : List Char :=
  joinWith [','] (c.hosts.map HostAddress.chars)

/-- The text of a database behind the hosts, if it is not the default one. -/
def databaseChars (c : Config) (name : List Char) : List Char :=
  if c.database ≠ ({} : Config).database then '/' :: name else []

/-- The options, if there are any. -/
def queryChars (c : Config) : List Char :=
  if c.optionPairs = [] then [] else '?' :: formPairs c.optionPairs

/-- A connection string consists of its parts. -/
lemma render_eq (c : Config) :
    c.render c.password = scheme.toList ++ ("://".toList ++ (c.credentialChars ++ c.hostChars ++
      (c.databaseChars c.database.toList ++ c.queryChars))) := by
  have hquery : (if (formPairs c.optionPairs).isEmpty then [] else '?' :: formPairs c.optionPairs) =
      c.queryChars := by
    unfold queryChars
    simp only [List.isEmpty_iff, formCoding.write_eq_nil]
  rw [← hquery]
  unfold render credentialChars hostChars databaseChars
  simp

/-- The configuration that credentials, hosts and the text of a database stand for. -/
def ofParts (credentials : Option (List Char)) (hosts : List HostAddress) (path : List Char) : Config :=
  let c : Config := match credentials with
    | some u => applyCredentials {} u
    | none => {}
  let c := { c with hosts }
  if path.isEmpty then c else { c with database := String.ofList path }

/-- Reads a configuration behind the scheme. -/
def ofRest (rest : List Char) : Except ConfigError Config :=
  let queryCut := (splitFirst '?' rest).getD (rest, [])
  let pathCut := (splitFirst '/' queryCut.1).getD (queryCut.1, [])
  let userCut := splitCredentials pathCut.1
  (splitEvery ',' userCut.2).mapM HostAddress.ofChars >>= fun hosts =>
    applyOptions (ofParts userCut.1 hosts pathCut.2) (readFormPairs queryCut.2)

/-- A connection string is read behind its scheme. -/
lemma ofChars_eq (s : List Char) :
    ofChars s =
      match splitAtText "://".toList (trim s) with
      | none => .error (.missingScheme (String.ofList (trim s)))
      | some (found, rest) =>
        if found ≠ scheme.toList then .error (.invalidScheme (String.ofList found)) else ofRest rest := by
  unfold ofChars
  dsimp only
  cases splitAtText "://".toList (trim s) with
  | none => rfl
  | some p =>
      obtain ⟨found, rest⟩ := p
      simp only [pure_bind]
      by_cases hfound : found = scheme.toList
      · rw [if_neg (not_not_intro hfound), if_neg (not_not_intro hfound)]
        rfl
      · rw [if_pos hfound, if_pos hfound]
        rfl

/-! ## Marks that fields do not have -/

/-- The hosts do not have a mark that no host has, unless it belongs to the texts of addresses. -/
lemma Delimited.notMem_hostChars (hc : c.Delimited) {x : Char} (hx : x ∈ ['/', '?', '@']) :
    x ∉ c.hostChars := by
  have hmarks : ∀ x ∈ ['/', '?', '@'], x ∉ ['[', ']', ':'] ∧ x.isDigit = false ∧ x ≠ ',' := by simp
  obtain ⟨hbracket, hdigit, hcomma⟩ := hmarks x hx
  intro hmem
  rcases mem_joinWith hmem with ⟨part, hpart, hxpart⟩ | hmem
  · obtain ⟨a, ha, rfl⟩ := List.mem_map.1 hpart
    have hhost : x ∉ a.host.toList := fun h => hc.host a ha x h (List.mem_cons_of_mem _ hx)
    exact HostAddress.notMem_chars hhost hbracket hdigit hxpart
  · exact hcomma (List.mem_singleton.1 hmem)

/-- The credentials do not have a mark that ends them. -/
lemma Delimited.notMem_credentialChars (hc : c.Delimited) {x : Char} (hx : x ∈ ['/', '?']) :
    x ∉ c.credentialChars := by
  have huser : x ∉ c.user.toList := fun h => hc.user x h (List.mem_cons_of_mem _ hx)
  have hpassword : x ∉ c.password.toList := fun h => hc.password x h hx
  have hmarks : ∀ x ∈ ['/', '?'], x ≠ ':' ∧ x ≠ '@' := by simp
  obtain ⟨hcolon, hat⟩ := hmarks x hx
  unfold credentialChars
  split_ifs <;> simp [huser, hpassword, hcolon, hat]

/-- The text of the hosts ends with a character that is not blank. -/
lemma Delimited.exists_last (hc : c.Delimited) :
    ∃ front x, c.hostChars = front ++ [x] ∧ isBlank x = false := by
  rcases List.eq_nil_or_concat c.hosts with hnil | ⟨init, a, hhosts⟩
  · exact absurd hnil hc.hosts
  obtain ⟨front, x, hchars, hx⟩ := a.exists_last
  obtain ⟨before, hbefore⟩ := exists_joinWith_concat [','] (init.map HostAddress.chars) a.chars
  refine ⟨before ++ front, x, ?_, hx⟩
  rw [hostChars, hhosts, List.concat_eq_append, List.map_append, List.map_singleton, hbefore, hchars,
    List.append_assoc]

/-- What is written behind a database has no blanks. -/
lemma isBlank_of_mem_queryChars {x : Char} (hx : x ∈ c.queryChars) : isBlank x = false := by
  have hvisible {x : Char} (hlow : 0x20 < x.toNat) (hhigh : x.toNat < 0x7f) : isBlank x = false := by
    unfold isBlank
    simp only [Bool.or_eq_false_iff, Bool.and_eq_false_iff, decide_eq_false_iff_not,
      beq_eq_false_iff_ne]
    omega
  unfold queryChars at hx
  split_ifs at hx
  · cases hx
  rcases List.mem_cons.1 hx with rfl | hx
  · decide
  · obtain ⟨hlow, hhigh⟩ := formCoding.visible hx
    exact hvisible hlow hhigh

/-! ## Cutting -/

/-- The name of the database as it is found behind the hosts: the blanks at its end are lost if nothing
stands behind it. -/
def foundDatabase (c : Config) : List Char :=
  if c.optionPairs = [] then trimEnd c.database.toList else c.database.toList

/-- The end of a connection string is trimmed where it is that of the database. -/
lemma trimEnd_behind_hosts (c : Config) :
    trimEnd (c.databaseChars c.database.toList ++ c.queryChars) =
      c.databaseChars c.foundDatabase ++ c.queryChars := by
  by_cases hnone : c.optionPairs = []
  · rw [queryChars, if_pos hnone, List.append_nil, List.append_nil, foundDatabase, if_pos hnone]
    unfold databaseChars
    split_ifs
    · exact trimEnd_append_cons (by decide) [] _
    · rfl
  · rw [foundDatabase, if_neg hnone]
    have hne : c.queryChars ≠ [] := by simp [queryChars, hnone]
    have hlast := List.getLast?_eq_some_getLast hne
    rw [trimEnd_eq_self_iff, List.getLast?_append, hlast, Option.some_or]
    rintro _ ⟨⟩
    exact isBlank_of_mem_queryChars (List.getLast_mem hne)

/-- A connection string is trimmed at its end alone, and there no further than to the hosts. -/
lemma Delimited.trim_render (hc : c.Delimited) :
    trim (c.render c.password) = scheme.toList ++ ("://".toList ++ (c.credentialChars ++ c.hostChars ++
      (c.databaseChars c.foundDatabase ++ c.queryChars))) := by
  obtain ⟨front, x, hhosts, hx⟩ := hc.exists_last
  have hstart (behind : List Char) : trimStart (scheme.toList ++ behind) = scheme.toList ++ behind := rfl
  have hsplit (behind : List Char) :
      scheme.toList ++ ("://".toList ++ (c.credentialChars ++ c.hostChars ++ behind)) =
        scheme.toList ++ ("://".toList ++ (c.credentialChars ++ front)) ++ x :: behind := by
    simp [hhosts]
  rw [render_eq, trim, hstart, hsplit, trimEnd_append_cons hx, trimEnd_behind_hosts, hsplit]

/-- The options are cut off at the first question mark. -/
lemma cut_query {front : List Char} (hfront : '?' ∉ front) :
    (splitFirst '?' (front ++ c.queryChars)).getD (front ++ c.queryChars, []) =
      (front, formPairs c.optionPairs) := by
  unfold queryChars
  split_ifs with hnone
  · rw [List.append_nil, splitFirst_eq_none_iff.2 hfront, formCoding.write_eq_nil.2 hnone]
    rfl
  · rw [splitFirst_append hfront]
    rfl

/-- The database is cut off at the first slash. -/
lemma Delimited.cut_database (hc : c.Delimited) (name : List Char) :
    (splitFirst '/' (c.credentialChars ++ c.hostChars ++ c.databaseChars name)).getD
        (c.credentialChars ++ c.hostChars ++ c.databaseChars name, []) =
      (c.credentialChars ++ c.hostChars,
        if c.database ≠ ({} : Config).database then name else []) := by
  have hslash : '/' ∉ c.credentialChars ++ c.hostChars := by
    rw [List.mem_append]
    exact not_or_intro (hc.notMem_credentialChars (by decide)) (hc.notMem_hostChars (by decide))
  unfold databaseChars
  split_ifs
  · rw [splitFirst_append hslash]
    rfl
  · rw [List.append_nil, splitFirst_eq_none_iff.2 hslash]
    rfl

/-- The credentials are cut off at the last at-sign, and the user and the password are theirs. -/
lemma Delimited.cut_credentials (hc : c.Delimited) :
    ∃ credentials, splitCredentials (c.credentialChars ++ c.hostChars) = (credentials, c.hostChars) ∧
      ∀ hosts path, ofParts credentials hosts path =
        { ofParts none hosts path with user := c.user, password := c.password } := by
  have hat : '@' ∉ c.hostChars := hc.notMem_hostChars (by decide)
  unfold credentialChars
  split_ifs with hgiven
  · have hcut : splitLast '@' (c.user.toList ++ ':' :: c.password.toList ++ ['@'] ++ c.hostChars) =
        some (c.user.toList ++ ':' :: c.password.toList, c.hostChars) :=
      splitLast_eq_some_iff.2 ⟨by simp, hat⟩
    refine ⟨_, by rw [splitCredentials, hcut], fun hosts path => ?_⟩
    have hcolon : ':' ∉ c.user.toList := fun h => hc.user ':' h (by decide)
    have happly : applyCredentials {} (c.user.toList ++ ':' :: c.password.toList) =
        { ({} : Config) with user := c.user, password := c.password } := by
      have hfull : c.user.toList.isEmpty = false := by simpa using hc.user_ne
      simp [applyCredentials, splitFirst_append hcolon, hfull]
    unfold ofParts
    dsimp only
    rw [happly]
    split_ifs <;> rfl
  · have hdefault : c.user = ({} : Config).user ∧ c.password = "" := by
      simpa [not_or] using hgiven
    refine ⟨none, ?_, fun hosts path => ?_⟩
    · rw [List.nil_append, splitCredentials, splitLast_eq_none_iff.2 hat]
    · rw [hdefault.1, hdefault.2]
      unfold ofParts
      dsimp only
      split_ifs <;> rfl

/-- The database that is found: an empty one is the default one. -/
def restoredDatabase (c : Config) : String :=
  if c.database = ({} : Config).database ∨ c.foundDatabase = [] then ({} : Config).database
  else String.ofList c.foundDatabase

/-- The database that is found ends at a question mark. -/
lemma Delimited.notMem_databaseChars (hc : c.Delimited) :
    '?' ∉ c.databaseChars c.foundDatabase := by
  have hfound : '?' ∉ c.foundDatabase := by
    unfold foundDatabase
    split_ifs
    · obtain ⟨gap, _, hgap⟩ := exists_trimEnd c.database.toList
      exact fun h => hc.database (by rw [hgap]; exact List.mem_append_left _ h)
    · exact hc.database
  unfold databaseChars
  split_ifs <;> simp [hfound]

/-- The hosts are cut apart at the commas. -/
lemma Delimited.splitEvery_hostChars (hc : c.Delimited) :
    splitEvery ',' c.hostChars = c.hosts.map HostAddress.chars := by
  refine splitEvery_joinWith (fun part hpart => ?_) (by simpa using hc.hosts)
  obtain ⟨a, ha, rfl⟩ := List.mem_map.1 hpart
  exact HostAddress.notMem_chars (fun h => hc.host a ha ',' h (by decide)) (by decide) (by decide)

/-- What reading makes of the connection string of a configuration with marks in their places alone. -/
theorem Delimited.ofChars_render (hc : c.Delimited) :
    ofChars (c.render c.password) =
      (c.hosts.map HostAddress.chars).mapM HostAddress.ofChars >>= fun hosts =>
        applyOptions
          { hosts, user := c.user, password := c.password, database := c.restoredDatabase }
          c.optionPairs := by
  have hquestion : '?' ∉ c.credentialChars ++ c.hostChars ++ c.databaseChars c.foundDatabase := by
    rw [List.mem_append, List.mem_append]
    exact not_or_intro (not_or_intro (hc.notMem_credentialChars (by decide))
      (hc.notMem_hostChars (by decide))) hc.notMem_databaseChars
  have hscheme (behind : List Char) :
      splitAtText "://".toList (scheme.toList ++ ("://".toList ++ behind)) =
        some (scheme.toList, behind) := rfl
  obtain ⟨credentials, hcredentials, hparts⟩ := hc.cut_credentials
  have hdatabase (hosts : List HostAddress) :
      ofParts none hosts (if c.database ≠ ({} : Config).database then c.foundDatabase else []) =
        { hosts, database := c.restoredDatabase } := by
    unfold ofParts restoredDatabase
    by_cases hdefault : c.database = ({} : Config).database
    · simp [hdefault]
    · by_cases hempty : c.foundDatabase = []
      · simp [hempty]
      · simp [hdefault, hempty]
  rw [ofChars_eq, hc.trim_render, hscheme]
  simp only [ne_eq, not_true_eq_false, if_false]
  rw [← List.append_assoc (c.credentialChars ++ c.hostChars), ofRest, cut_query hquestion]
  simp only [hc.cut_database, hcredentials, hc.splitEvery_hostChars, formCoding.read_write,
    hparts, hdatabase]

/-! ## Options -/

/-- Options are taken over in turn. -/
lemma applyOptions_append {c' c'' : Config} {l l' : List (String × String)}
    (h : c.applyOptions l = .ok c') (h' : c'.applyOptions l' = .ok c'') :
    c.applyOptions (l ++ l') = .ok c'' := by
  induction l generalizing c with
  | nil =>
      cases h
      exact h'
  | cons p rest ih =>
      obtain ⟨key, value⟩ := p
      obtain ⟨b, hb, hrest⟩ := except_bind_eq_ok.1 h
      exact except_bind_eq_ok.2 ⟨b, hb, ih hrest⟩

/-- An option that is written where it is needed is taken over, if nothing changes elsewhere. -/
lemma applyOptions_ite {P : Prop} [Decidable P] {c' : Config} {key value : String}
    (h : P → c.applyOption key value = .ok c') (hnot : ¬ P → c' = c) :
    c.applyOptions (if P then [(key, value)] else []) = .ok c' := by
  split_ifs with hP
  · rw [applyOptions, h hP]
    rfl
  · rw [hnot hP]
    rfl

/-- A span of time is read from its text, as some span. -/
def IsReadable (t : Span) : Prop :=
  ∃ t', ∀ key, readSeconds key (secondsText t) = .ok t'

/-- An option for a span of time is taken over as some span, and as the default one where it is not
written. -/
lemma exists_applyOptions_seconds {P : Prop} [Decidable P] {t d : Span} {key : String}
    {set : Span → Config} (ht : IsReadable t)
    (hset : c.applyOption key (secondsText t) = readSeconds key (secondsText t) >>= fun t => pure (set t))
    (hdefault : set d = c) :
    ∃ t', c.applyOptions (if P then [(key, secondsText t)] else []) = .ok (set t') ∧
      (¬ P → t' = d) := by
  obtain ⟨t', ht'⟩ := ht
  refine ⟨if P then t' else d, applyOptions_ite (fun hP => ?_) (fun hP => ?_), fun hP => if_neg hP⟩
  · rw [hset, ht', if_pos hP]
    rfl
  · rw [if_neg hP, hdefault]

/-- A name behind all others is put at the end. -/
lemma insertEntry_of_lt {key value : String} {l : List (String × String)} (h : ∀ p ∈ l, p.1 < key) :
    insertEntry key value l = l ++ [(key, value)] := by
  induction l with
  | nil => rfl
  | cons p rest ih =>
      obtain ⟨a, b⟩ := p
      have ha : a < key := h (a, b) List.mem_cons_self
      rw [insertEntry, if_neg (String.lt_asymm ha), if_neg (fun heq => ?_),
        ih fun p hp => h p (List.mem_cons_of_mem _ hp), List.cons_append]
      rw [heq] at ha
      exact String.lt_irrefl a ha

/-- Options without a meaning are kept. -/
lemma applyOption_of_notMem {key : String} (h : key ∉ recognised) (value : String) :
    c.applyOption key value = .ok { c with options := c.options.insert key value } := by
  simp only [recognised, List.mem_cons, List.not_mem_nil, or_false, not_or] at h
  obtain ⟨h1, h2, h3, h4, h5⟩ := h
  rw [applyOption, if_neg h1, if_neg h2, if_neg h3, if_neg h4, if_neg h5]

/-- Options without a meaning that come in ascending order are all kept. -/
lemma applyOptions_entries {l : List (String × String)} {o : Options}
    (hkeys : ∀ p ∈ l, p.1 ∉ recognised) (ho : o.entries = c.options.entries ++ l) :
    c.applyOptions l = .ok { c with options := o } := by
  induction l generalizing c with
  | nil =>
      have hsame : o = c.options := by
        rw [List.append_nil] at ho
        cases o
        cases hc : c.options
        simp_all
      rw [hsame]
      rfl
  | cons p rest ih =>
      obtain ⟨key, value⟩ := p
      have hsorted := o.ascending
      rw [ho, List.pairwise_append] at hsorted
      have hlast : (c.options.insert key value).entries = c.options.entries ++ [(key, value)] :=
        insertEntry_of_lt fun p hp => hsorted.2.2 p hp (key, value) List.mem_cons_self
      rw [applyOptions, applyOption_of_notMem (hkeys _ List.mem_cons_self)]
      change applyOptions { c with options := c.options.insert key value } rest = _
      rw [ih (fun p hp => hkeys p (List.mem_cons_of_mem _ hp))]
      rw [hlast, ho]
      simp

/-- The spans of time that a connection string tells are read from their texts. -/
structure HasReadableTimes (c : Config) : Prop where
  /-- The limit for opening a connection. -/
  connect : IsReadable c.timeouts.connect
  /-- The limit for a receive, which stands for that for a send as well. -/
  receive : IsReadable c.timeouts.receive
  /-- The pause between attempts. -/
  pause : IsReadable c.retry.pause

/-- The number of further attempts comes back. -/
lemma applyOption_retryCount (c : Config) (n : UInt32) :
    c.applyOption "retry_count" (toString n.toNat) =
      .ok { c with retry := { c.retry with maxRetries := n } } := by
  have hread : readNatural? UInt32.size (Nat.toDigits 10 n.toNat) = some n.toNat :=
    readNatural?_toDigits n.toNat_lt
  simp [applyOption, hread]

/-- The options of a connection string come back, apart from the spans of time among them. -/
lemma exists_applyOptions_optionPairs (hkeys : ∀ p ∈ c.options.entries, p.1 ∉ recognised)
    (htimes : c.HasReadableTimes) (hosts : List HostAddress) (user password database : String) :
    ∃ timeouts pause,
      applyOptions { hosts, user, password, database } c.optionPairs =
        .ok { hosts, user, password, database, compression := c.compression, timeouts,
              retry := ⟨c.retry.maxRetries, pause⟩, options := c.options } ∧
      (c.timeouts = {} → timeouts = {}) ∧
      (c.retry.pause = ({} : RetryPolicy).pause → pause = ({} : RetryPolicy).pause) := by
  let d : Config := {}
  let c₀ : Config := { hosts, user, password, database }
  let c₁ : Config := { c₀ with compression := c.compression }
  have h₁ : c₀.applyOptions (if c.compression then [("compression", "true")] else []) = .ok c₁ :=
    applyOptions_ite (fun h => by simp [applyOption, c₁, h]) (fun h => by simp [c₀, c₁, h])
  obtain ⟨connect, h₂, hconnect⟩ : ∃ t, c₁.applyOptions
      (if c.timeouts.connect ≠ d.timeouts.connect then
        [("connect_timeout", secondsText c.timeouts.connect)] else []) =
        .ok { c₁ with timeouts := { c₁.timeouts with connect := t } } ∧
      (¬ c.timeouts.connect ≠ d.timeouts.connect → t = d.timeouts.connect) :=
    exists_applyOptions_seconds htimes.connect (by simp [applyOption]) rfl
  let c₂ : Config := { c₁ with timeouts := { c₁.timeouts with connect } }
  obtain ⟨receive, h₃, hreceive⟩ : ∃ t, c₂.applyOptions
      (if c.timeouts.send ≠ d.timeouts.send ∨ c.timeouts.receive ≠ d.timeouts.receive then
        [("send_receive_timeout", secondsText c.timeouts.receive)] else []) =
        .ok { c₂ with timeouts := { c₂.timeouts with send := t, receive := t } } ∧
      (¬ (c.timeouts.send ≠ d.timeouts.send ∨ c.timeouts.receive ≠ d.timeouts.receive) →
        t = d.timeouts.receive) :=
    exists_applyOptions_seconds htimes.receive (by simp [applyOption]) rfl
  let c₃ : Config := { c₂ with timeouts := { c₂.timeouts with send := receive, receive } }
  obtain ⟨pause, h₄, hpause⟩ : ∃ t, c₃.applyOptions
      (if c.retry.pause ≠ d.retry.pause then [("retry_timeout", secondsText c.retry.pause)]
        else []) = .ok { c₃ with retry := { c₃.retry with pause := t } } ∧
      (¬ c.retry.pause ≠ d.retry.pause → t = d.retry.pause) :=
    exists_applyOptions_seconds htimes.pause (by simp [applyOption]) rfl
  let c₄ : Config := { c₃ with retry := { c₃.retry with pause } }
  let c₅ : Config := { c₄ with retry := { c₄.retry with maxRetries := c.retry.maxRetries } }
  have h₅ : c₄.applyOptions (if c.retry.maxRetries ≠ d.retry.maxRetries then
      [("retry_count", toString c.retry.maxRetries.toNat)] else []) = .ok c₅ :=
    applyOptions_ite (fun _ => applyOption_retryCount c₄ _) (fun h => by
      rw [show c₅ = { c₄ with retry := { c₄.retry with maxRetries := c.retry.maxRetries } } from rfl,
        not_ne_iff.1 h])
  have h₆ : c₅.applyOptions c.options.entries = .ok { c₅ with options := c.options } :=
    applyOptions_entries hkeys rfl
  refine ⟨{ connect, send := receive, receive }, pause, ?_, fun h => ?_, fun h => ?_⟩
  · have h₁₂ := applyOptions_append h₁ h₂
    have h₃₄ := applyOptions_append (applyOptions_append h₁₂ h₃) h₄
    exact applyOptions_append (applyOptions_append h₃₄ h₅) h₆
  · rw [hconnect (by simp [h, d]), hreceive (by simp [h, d])]
  · exact hpause (by simp [h, d])

/-! ## Configurations that come back -/

/-- A configuration that its connection string tells: marks stand in their places alone, hosts and the
database begin and end with what is not trimmed, and what a connection string does not tell is as by
default. -/
structure IsTellable (c : Config) : Prop extends c.Delimited where
  /-- Every host comes back from its text. -/
  address : ∀ a ∈ c.hosts, a.IsTellable
  /-- The database does not end with a blank. -/
  databaseEnd : ∀ x ∈ c.database.toList.getLast?, isBlank x = false
  /-- The limits are the default ones. -/
  timeouts : c.timeouts = {}
  /-- The pause is the default one. -/
  pause : c.retry.pause = ({} : RetryPolicy).pause
  /-- The name of the client is the default one. -/
  clientName : c.clientName = ({} : Config).clientName
  /-- There are no settings. -/
  settings : c.settings = []
  /-- The number of types that are kept is the default one. -/
  typeCacheCapacity : c.typeCacheCapacity = ({} : Config).typeCacheCapacity

/-- A database that does not end with a blank is found as it is. -/
lemma restoredDatabase_of_end (hne : c.database ≠ "")
    (hend : c.optionPairs = [] → ∀ x ∈ c.database.toList.getLast?, isBlank x = false) :
    c.restoredDatabase = c.database := by
  have hfound : c.foundDatabase = c.database.toList := by
    unfold foundDatabase
    split_ifs with hnone
    · exact trimEnd_eq_self_iff.2 (hend hnone)
    · rfl
  unfold restoredDatabase
  split_ifs with hdefault
  · rcases hdefault with hdefault | hempty
    · exact hdefault.symm
    · rw [hfound] at hempty
      exact absurd (by simpa using hempty) hne
  · rw [hfound, String.ofList_toList]

/-- The hosts come back exactly if each of them does. -/
lemma mapM_chars_eq_ok {hosts : List HostAddress} :
    (hosts.map HostAddress.chars).mapM HostAddress.ofChars = .ok hosts ↔
      ∀ a ∈ hosts, a.IsTellable := by
  simp only [mapM_eq_ok, List.forall₂_map_left_iff, List.forall₂_same, HostAddress.ofChars_chars_iff]

/-- The default limits are read from their text. -/
lemma isReadable_default : IsReadable (Span.ofSeconds 5) := by
  have hread : (readBinary64? (secondsText (Span.ofSeconds 5)).toList).bind Span.ofBinarySeconds? =
      some (Span.ofSeconds 5) := by decide +kernel
  exact ⟨Span.ofSeconds 5, fun key => by rw [readSeconds, hread]⟩

/-- A configuration that its connection string tells comes back from it. -/
theorem parse_connectionString (hc : c.IsTellable) : parse c.connectionString = .ok c := by
  have htimes : c.HasReadableTimes := by
    refine ⟨?_, ?_, ?_⟩
    · rw [hc.timeouts]
      exact isReadable_default
    · rw [hc.timeouts]
      exact isReadable_default
    · rw [hc.pause]
      exact isReadable_default
  obtain ⟨timeouts, pause, hoptions, htimeouts, hpause⟩ :=
    exists_applyOptions_optionPairs hc.options htimes c.hosts c.user c.password c.database
  have hsame : Config.mk c.hosts c.user c.password c.database c.compression timeouts
      ⟨c.retry.maxRetries, pause⟩ ({} : Config).clientName [] c.options
      ({} : Config).typeCacheCapacity = c := by
    rw [htimeouts hc.timeouts, hpause hc.pause, ← hc.pause, ← hc.timeouts]
    have hname := hc.clientName
    have hsettings := hc.settings
    have hcapacity := hc.typeCacheCapacity
    cases c
    simp_all
  rw [parse, connectionString, String.toList_ofList, hc.ofChars_render, mapM_chars_eq_ok.2 hc.address,
    restoredDatabase_of_end hc.database_ne fun _ => hc.databaseEnd]
  exact hoptions.trans (congrArg Except.ok hsame)

/-- A configuration with marks in every field that may have some. -/
def markedConfig : Config where
  hosts := [⟨"::1", 9440⟩, ⟨"ch [1", 9000⟩]
  user := "a@b"
  password := "p:@w"
  database := "d/b"
  compression := true
  retry := { maxRetries := 7 }
  options := Options.empty.insert "x y" "1&2"

/-- It comes back. -/
theorem parse_connectionString_marked :
    parse markedConfig.connectionString = .ok markedConfig :=
  parse_connectionString
    { hosts := by decide
      host := by simp [markedConfig]
      user_ne := by decide
      user := by simp [markedConfig]
      password := by simp [markedConfig]
      database_ne := by decide
      database := by decide
      options := by decide
      address := by
        intro a ha
        simp only [markedConfig, List.mem_cons, List.not_mem_nil, or_false] at ha
        rcases ha with rfl | rfl
        · exact ⟨by decide, .inl (by decide)⟩
        · exact ⟨by decide, .inr ⟨by decide, by rintro x ⟨⟩; decide⟩⟩
      databaseEnd := by
        rintro x ⟨⟩
        rfl
      timeouts := rfl
      pause := rfl
      clientName := rfl
      settings := rfl
      typeCacheCapacity := rfl }

end ColumnWire.Session.Config
