import ColumnWire.Proofs.Session.Rendering
import ColumnWire.Proofs.Time.Seconds

/-!
# Configurations that were read

What is known of a configuration that was read from a connection string (`Config.WasRead`): its fields do not
contain the marks that end them, its hosts were read from texts, and its spans of time are as long as numbers
of seconds tell. The parts of the connection string have this property (`wasRead_ofParts`) and every option
keeps it (`WasRead.applyOption`). So its own connection string is cut at the marks that were written for it,
and all that can differ afterwards are the hosts and the end of the database.

Main statement: `Config.parse_connectionString_iff`.
-/

namespace ColumnWire.Session.Config

open ColumnWire.Text ColumnWire.Wire ColumnWire.Time ColumnWire.Number ColumnWire.Stream

variable {c c' : Config} {s : String} {x : Char} {l a b rest path : List Char}
  {credentials : Option (List Char)} {hosts : List HostAddress}

/-- What is known of a configuration that was read. -/
structure WasRead (c : Config) : Prop extends c.Delimited where
  /-- Every host was read from a text. -/
  address : ∀ a ∈ c.hosts, ∃ t, HostAddress.ofChars t = .ok a
  /-- The limit for opening a connection was a number of seconds. -/
  connect : c.timeouts.connect.IsTold
  /-- So was the limit for a receive. -/
  receive : c.timeouts.receive.IsTold
  /-- So was the pause between attempts. -/
  pause : c.retry.pause.IsTold

/-! ## Cuts -/

/-- What stands before and behind a mark are parts of the text. -/
lemma subset_of_eq_append_cons (h : l = a ++ x :: b) : a ⊆ l ∧ b ⊆ l := by
  rw [h]
  exact ⟨List.subset_append_left _ _,
    List.Subset.trans (List.subset_cons_self x b) (List.subset_append_right _ _)⟩

/-- The parts of a cut at a mark, or of a text without the mark, are parts of the text, and the first of them
does not have the mark. -/
lemma cut_spec (h : (splitFirst x l).getD (l, []) = (a, b)) : x ∉ a ∧ a ⊆ l ∧ b ⊆ l := by
  rcases hcut : splitFirst x l with _ | ⟨a', b'⟩
  · rw [hcut] at h
    cases h
    exact ⟨splitFirst_eq_none_iff.1 hcut, List.Subset.refl _, List.nil_subset _⟩
  · rw [hcut] at h
    cases h
    obtain ⟨hl, hmark⟩ := splitFirst_eq_some_iff.1 hcut
    exact ⟨hmark, subset_of_eq_append_cons hl⟩

/-- The hosts stand behind the last at-sign, and the credentials before it. -/
lemma splitCredentials_spec (h : splitCredentials l = (credentials, b)) :
    '@' ∉ b ∧ b ⊆ l ∧ ∀ u ∈ credentials, u ⊆ l := by
  unfold splitCredentials at h
  rcases hcut : splitLast '@' l with _ | ⟨a, b⟩
  · rw [hcut] at h
    cases h
    exact ⟨splitLast_eq_none_iff.1 hcut, List.Subset.refl _, fun u hu => by cases hu⟩
  · rw [hcut] at h
    cases h
    obtain ⟨hl, hmark⟩ := splitLast_eq_some_iff.1 hcut
    obtain ⟨hbefore, hbehind⟩ := subset_of_eq_append_cons hl
    refine ⟨hmark, hbehind, ?_⟩
    rintro u ⟨⟩
    exact hbefore

/-- The user is what stands before the first colon of the credentials, or the default one, and the password is
what stands behind it. -/
lemma applyCredentials_spec {u : List Char} (hu : ∀ x ∈ u, x ∉ ['/', '?']) :
    (applyCredentials {} u).user ≠ "" ∧
      (∀ x ∈ (applyCredentials {} u).user.toList, x ∉ [':', '/', '?']) ∧
      ∀ x ∈ (applyCredentials {} u).password.toList, x ∉ ['/', '?'] := by
  have hsplit : ∃ user password, ':' ∉ user ∧ user ⊆ u ∧ password ⊆ u ∧
      applyCredentials {} u =
        { ({} : Config) with
          user := if user.isEmpty then ({} : Config).user else String.ofList user
          password := String.ofList password } := by
    unfold applyCredentials
    rcases hcut : splitFirst ':' u with _ | ⟨user, password⟩
    · exact ⟨u, [], splitFirst_eq_none_iff.1 hcut, List.Subset.refl _, List.nil_subset _, rfl⟩
    · obtain ⟨hl, hcolon⟩ := splitFirst_eq_some_iff.1 hcut
      obtain ⟨huser, hpassword⟩ := subset_of_eq_append_cons hl
      exact ⟨user, password, hcolon, huser, hpassword, rfl⟩
  obtain ⟨user, password, hcolon, huser, hpassword, heq⟩ := hsplit
  rw [heq]
  dsimp only
  refine ⟨?_, ?_, ?_⟩
  · split_ifs with hempty
    · decide
    · simpa using hempty
  · split_ifs
    · simp
    · rw [String.toList_ofList]
      intro x hx
      have hmark := hu x (huser hx)
      rintro (_ | ⟨_, hx'⟩)
      · exact hcolon hx
      · exact hmark hx'
  · rw [String.toList_ofList]
    exact fun x hx => hu x (hpassword hx)

/-! ## What was read -/

/-- The parts of a connection string make up a configuration that was read. -/
lemma wasRead_ofParts (hne : hosts ≠ [])
    (hhosts : ∀ a ∈ hosts, ∀ x ∈ a.host.toList, x ∉ [',', '/', '?', '@'])
    (haddress : ∀ a ∈ hosts, ∃ t, HostAddress.ofChars t = .ok a)
    (hcredentials : ∀ u ∈ credentials, ∀ x ∈ u, x ∉ ['/', '?']) (hpath : '?' ∉ path) :
    (ofParts credentials hosts path).WasRead := by
  have hdefault : (Span.ofSeconds 5).IsTold := by
    unfold Span.IsTold
    decide
  obtain ⟨user, password, huser_ne, huser, hpassword, hparts⟩ : ∃ user password,
      user ≠ "" ∧ (∀ x ∈ user.toList, x ∉ [':', '/', '?']) ∧ (∀ x ∈ password.toList, x ∉ ['/', '?']) ∧
        ofParts credentials hosts path =
          { user, password, hosts, database := if path.isEmpty then "default" else String.ofList path } := by
    rcases credentials with _ | u
    · refine ⟨"default", "", by decide, by simp, by simp, ?_⟩
      unfold ofParts
      split_ifs <;> simp_all
    · obtain ⟨huser_ne, huser, hpassword⟩ := applyCredentials_spec (hcredentials u rfl)
      refine ⟨_, _, huser_ne, huser, hpassword, ?_⟩
      unfold ofParts
      split_ifs <;> simp_all [applyCredentials]
  rw [hparts]
  exact
    { hosts := hne
      host := hhosts
      user_ne := huser_ne
      user := huser
      password := hpassword
      database_ne := by
        dsimp only
        split_ifs with hempty
        · decide
        · simpa using hempty
      database := by
        dsimp only
        split_ifs
        · decide
        · rw [String.toList_ofList]
          exact hpath
      options := fun p hp => by cases hp
      address := haddress
      connect := hdefault
      receive := hdefault
      pause := hdefault }

/-- What options change is of no account for anything else. -/
lemma WasRead.withOptions (hc : c.WasRead) (compression : Bool) {timeouts : Timeouts} {retry : RetryPolicy}
    {options : Options} (hconnect : timeouts.connect.IsTold) (hreceive : timeouts.receive.IsTold)
    (hpause : retry.pause.IsTold) (hoptions : ∀ p ∈ options.entries, p.1 ∉ recognised) :
    { c with compression, timeouts, retry, options }.WasRead where
  hosts := hc.hosts
  host := hc.host
  user_ne := hc.user_ne
  user := hc.user
  password := hc.password
  database_ne := hc.database_ne
  database := hc.database
  options := hoptions
  address := hc.address
  connect := hconnect
  receive := hreceive
  pause := hpause

/-- A span that an option sets was a number of seconds. -/
lemma isTold_of_readSeconds {key value : String} {t : Span} (h : readSeconds key value = .ok t) :
    t.IsTold := by
  unfold readSeconds at h
  split at h
  · next hread =>
      cases h
      obtain ⟨x, _, hx⟩ := Option.bind_eq_some_iff.1 hread
      exact Span.isTold_of_ofBinarySeconds? hx
  · cases h

/-- An option leaves the hosts, the credentials and the database alone, and keeps what is known. -/
lemma WasRead.applyOption {key value : String} (hc : c.WasRead) (h : c.applyOption key value = .ok c') :
    c'.WasRead := by
  by_cases hkey : key ∈ recognised
  · unfold Config.applyOption at h
    split_ifs at h with h1 h2 h3 h4 h5
    · cases h
      exact hc.withOptions _ hc.connect hc.receive hc.pause hc.options
    · obtain ⟨t, ht, h⟩ := except_bind_eq_ok.1 h
      cases h
      exact hc.withOptions _ (isTold_of_readSeconds ht) hc.receive hc.pause hc.options
    · obtain ⟨t, ht, h⟩ := except_bind_eq_ok.1 h
      cases h
      exact hc.withOptions _ hc.connect (isTold_of_readSeconds ht) hc.pause hc.options
    · obtain ⟨t, ht, h⟩ := except_bind_eq_ok.1 h
      cases h
      exact hc.withOptions _ hc.connect hc.receive (isTold_of_readSeconds ht) hc.options
    · split at h
      · cases h
        exact hc.withOptions _ hc.connect hc.receive hc.pause hc.options
      · cases h
    · exact absurd hkey (by simp [recognised, *])
  · rw [applyOption_of_notMem hkey] at h
    cases h
    refine hc.withOptions _ hc.connect hc.receive hc.pause fun p hp => ?_
    rcases mem_insertEntry hp with rfl | hp
    · exact hkey
    · exact hc.options p hp

/-- So do all options in turn. -/
lemma WasRead.applyOptions {l : List (String × String)} (hc : c.WasRead)
    (h : c.applyOptions l = .ok c') : c'.WasRead := by
  induction l generalizing c with
  | nil =>
      cases h
      exact hc
  | cons p rest ih =>
      obtain ⟨key, value⟩ := p
      obtain ⟨c'', hstep, hrest⟩ := except_bind_eq_ok.1 h
      exact ih (hc.applyOption hstep) hrest

/-- The configuration behind the scheme was read. -/
lemma wasRead_of_ofRest (h : ofRest rest = .ok c) : c.WasRead := by
  unfold ofRest at h
  rcases hquery : (splitFirst '?' rest).getD (rest, []) with ⟨front, query⟩
  rcases hpath : (splitFirst '/' front).getD (front, []) with ⟨authority, path⟩
  rcases hcredentials : splitCredentials authority with ⟨credentials, text⟩
  simp only [hquery, hpath, hcredentials] at h
  obtain ⟨hosts, hhosts, h⟩ := except_bind_eq_ok.1 h
  obtain ⟨hquestion, _, _⟩ := cut_spec hquery
  obtain ⟨hslash, hauthority, hpathfront⟩ := cut_spec hpath
  obtain ⟨hat, htext, hcredentials'⟩ := splitCredentials_spec hcredentials
  have hmarks : ∀ x ∈ authority, x ∉ ['/', '?'] := by
    intro x hx hmark
    rcases hmark with _ | ⟨_, _ | ⟨_, hmark⟩⟩
    · exact hslash hx
    · exact hquestion (hauthority hx)
    · cases hmark
  have hread := mapM_eq_ok.1 hhosts
  have hpart {a : HostAddress} (ha : a ∈ hosts) :
      ∃ part ∈ splitEvery ',' text, HostAddress.ofChars part = .ok a :=
    exists_of_mem_forall₂ hread ha
  refine (wasRead_ofParts ?_ ?_ ?_ ?_ ?_).applyOptions h
  · rintro rfl
    have hnone := hread.length_eq
    rw [List.length_nil, List.length_eq_zero_iff] at hnone
    exact splitEvery_ne_nil ',' text hnone
  · intro a ha x hx
    obtain ⟨part, hmem, ha⟩ := hpart ha
    have hxpart := HostAddress.mem_of_ofChars ha hx
    have hxtext : x ∈ text := by
      rw [← joinWith_splitEvery ',' text]
      exact mem_joinWith_of_mem hmem hxpart
    rintro (_ | ⟨_, _ | ⟨_, _ | ⟨_, _ | ⟨_, hmark⟩⟩⟩⟩)
    · exact notMem_of_mem_splitEvery hmem hxpart
    · exact hslash (htext hxtext)
    · exact hquestion (hauthority (htext hxtext))
    · exact hat hxtext
    · cases hmark
  · intro a ha
    obtain ⟨part, _, ha⟩ := hpart ha
    exact ⟨part, ha⟩
  · exact fun u hu x hx => hmarks x (hcredentials' u hu hx)
  · exact fun hmem => hquestion (hpathfront hmem)

/-- A configuration was read from its connection string. -/
lemma wasRead_of_parse (h : parse s = .ok c) : c.WasRead := by
  unfold parse at h
  rw [ofChars_eq] at h
  rcases hcut : splitAtText "://".toList (trim s.toList) with _ | ⟨found, rest⟩
  · rw [hcut] at h
    cases h
  · rw [hcut] at h
    dsimp only at h
    split_ifs at h
    exact wasRead_of_ofRest h

/-- The spans of a configuration that was read are read again. -/
lemma WasRead.hasReadableTimes (hc : c.WasRead) : c.HasReadableTimes := by
  have hread {t : Span} (ht : t.IsTold) : IsReadable t := by
    obtain ⟨t', ht'⟩ := ht.exists_ofBinarySeconds?_text
    refine ⟨t', fun key => ?_⟩
    rw [readSeconds, secondsText, ht']
  exact ⟨hread hc.connect, hread hc.receive, hread hc.pause⟩

/-! ## What comes back -/

/-- Two configurations agree on everything that a connection string tells, apart from the servers, the database
and the spans of time. -/
structure Resembles (c c' : Config) : Prop where
  /-- On the user. -/
  user : c.user = c'.user
  /-- On the password. -/
  password : c.password = c'.password
  /-- On whether compressed blocks are asked for. -/
  compression : c.compression = c'.compression
  /-- On the number of further attempts. -/
  maxRetries : c.retry.maxRetries = c'.retry.maxRetries
  /-- On the options without a meaning. -/
  options : c.options = c'.options

/-- Two configurations agree on everything that a connection string tells, apart from the spans of time. -/
structure Agrees (c c' : Config) : Prop extends c.Resembles c' where
  /-- On the servers. -/
  hosts : c.hosts = c'.hosts
  /-- On the database. -/
  database : c.database = c'.database

/-- What comes back from the connection string of a configuration that was read, if its hosts do. -/
lemma WasRead.exists_restored (hc : c.WasRead)
    (h : (c.hosts.map HostAddress.chars).mapM HostAddress.ofChars = .ok hosts) :
    ∃ c', parse c.connectionString = .ok c' ∧ c'.hosts = hosts ∧ c'.database = c.restoredDatabase ∧
      c'.Resembles c := by
  obtain ⟨timeouts, pause, hoptions, _⟩ := exists_applyOptions_optionPairs hc.options
    hc.hasReadableTimes hosts c.user c.password c.restoredDatabase
  have hparse : parse c.connectionString = Config.applyOptions
      { hosts, user := c.user, password := c.password, database := c.restoredDatabase }
      c.optionPairs := by
    rw [parse, connectionString, String.toList_ofList, hc.ofChars_render, h]
    rfl
  exact ⟨_, hparse.trans hoptions, rfl, rfl, ⟨rfl, rfl, rfl, rfl, rfl⟩⟩

/-- Nothing else comes back. -/
lemma WasRead.restored (hc : c.WasRead) (h : parse c.connectionString = .ok c') :
    (c.hosts.map HostAddress.chars).mapM HostAddress.ofChars = .ok c'.hosts ∧
      c'.database = c.restoredDatabase ∧ c'.Resembles c := by
  have hbind := h
  rw [parse, connectionString, String.toList_ofList, hc.ofChars_render] at hbind
  obtain ⟨hosts, hhosts, _⟩ := except_bind_eq_ok.1 hbind
  obtain ⟨c'', hparse, rfl, hdatabase, hresembles⟩ := hc.exists_restored hhosts
  rw [h] at hparse
  cases hparse
  exact ⟨hhosts, hdatabase, hresembles⟩

/-- The database is found again if and only if it does not end with a blank or there is something behind it. -/
lemma restoredDatabase_eq_iff (hne : c.database ≠ "") :
    c.restoredDatabase = c.database ↔
      (c.optionPairs = [] → ∀ x ∈ c.database.toList.getLast?, isBlank x = false) := by
  refine ⟨fun h hnone => ?_, restoredDatabase_of_end hne⟩
  unfold restoredDatabase at h
  split_ifs at h with hdefault
  · rw [← h]
    rintro x ⟨⟩
    rfl
  · have hfound := congrArg String.toList h
    rw [String.toList_ofList, foundDatabase, if_pos hnone] at hfound
    exact trimEnd_eq_self_iff.1 hfound

/-- A configuration that was read comes back from its connection string, apart from the spans of time, if and
only if none of its hosts without a colon begins with a blank or a bracket, and its database does not end with
a blank unless options stand behind it. If anything comes back, it differs in the hosts and in the database at
most. -/
theorem parse_connectionString_iff (h : parse s = .ok c) :
    (∀ c', parse c.connectionString = .ok c' → c'.Resembles c) ∧
      ((∃ c', parse c.connectionString = .ok c' ∧ c'.Agrees c) ↔
        (∀ a ∈ c.hosts, ':' ∈ a.host.toList ∨
          ∀ x ∈ a.host.toList.head?, isBlank x = false ∧ x ≠ '[') ∧
        (c.optionPairs = [] → ∀ x ∈ c.database.toList.getLast?, isBlank x = false)) := by
  have hc := wasRead_of_parse h
  have htellable : (∀ a ∈ c.hosts, a.IsTellable) ↔
      ∀ a ∈ c.hosts, ':' ∈ a.host.toList ∨
        ∀ x ∈ a.host.toList.head?, isBlank x = false ∧ x ≠ '[' := by
    refine forall₂_congr fun a ha => ?_
    obtain ⟨t, ht⟩ := hc.address a ha
    exact HostAddress.isTellable_iff_of_ofChars ht
  rw [← htellable, ← restoredDatabase_eq_iff hc.database_ne]
  refine ⟨fun c' hc' => (hc.restored hc').2.2, ?_, ?_⟩
  · rintro ⟨c', hparse, hagrees⟩
    obtain ⟨hhosts, hdatabase, _⟩ := hc.restored hparse
    rw [hagrees.hosts] at hhosts
    exact ⟨mapM_chars_eq_ok.1 hhosts, hdatabase.symm.trans hagrees.database⟩
  · rintro ⟨hhosts, hdatabase⟩
    obtain ⟨c', hparse, hsame, hfound, hresembles⟩ := hc.exists_restored (mapM_chars_eq_ok.2 hhosts)
    exact ⟨c', hparse, hresembles, hsame, hfound.trans hdatabase⟩

/-- Another connection string for the configuration with marks in every field that may have some. -/
def markedString : String :=
  " clickhouse://a@b:p:@w@[::1]:9440, ch [1/d/b?x+y=1%262&compression=TRUE&retry_count=%2B7 "

/-- The configuration comes back from the connection string that it has itself. -/
theorem parse_connectionString_iff_marked :
    parse markedString = .ok markedConfig ∧
      (∀ c', parse markedConfig.connectionString = .ok c' → c'.Resembles markedConfig) ∧
      ((∃ c', parse markedConfig.connectionString = .ok c' ∧ c'.Agrees markedConfig) ↔
        (∀ a ∈ markedConfig.hosts, ':' ∈ a.host.toList ∨
          ∀ x ∈ a.host.toList.head?, isBlank x = false ∧ x ≠ '[') ∧
        (markedConfig.optionPairs = [] →
          ∀ x ∈ markedConfig.database.toList.getLast?, isBlank x = false)) :=
  have hparse : parse markedString = .ok markedConfig := by decide +kernel
  ⟨hparse, parse_connectionString_iff hparse⟩

/-- A configuration with a blank at the end of its database. -/
def blankConfig : Config where
  hosts := [⟨"h", 9000⟩]
  database := "db "

/-- It is read where a question mark stands behind the blank, and the blank is lost from its own connection
string. -/
theorem parse_connectionString_blank :
    parse "clickhouse://h/db ?" = .ok blankConfig ∧
      ¬ ∃ c', parse blankConfig.connectionString = .ok c' ∧ c'.Agrees blankConfig := by
  have hread : parse blankConfig.connectionString = .ok { blankConfig with database := "db" } := by
    decide +kernel
  refine ⟨by decide +kernel, ?_⟩
  rintro ⟨c', hparse, hagrees⟩
  rw [hread] at hparse
  cases hparse
  exact absurd hagrees.database (by decide)

end ColumnWire.Session.Config
