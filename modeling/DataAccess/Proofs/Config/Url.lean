import DataAccess.Config.Url
import DataAccess.Proofs.Number.Digits
import DataAccess.Proofs.Text.Blank
import DataAccess.Proofs.Text.Case
import DataAccess.Proofs.Text.Percent
import DataAccess.Proofs.Text.Split

/-!
# URLs read back

A URL with credentials is read as the parts that it was written from, if user, password and path are
percent-encoded and the host has no separator in it. Blanks behind a URL are no part of it.
-/

namespace DataAccess

namespace UrlParts

/-! ### Writing -/

/-- The characters that divide a URL. -/
def separators : List Char := [':', '@', '/', '?']

/-- What percent-encoding may keep: neither a separator nor a percent sign nor a blank. -/
def MayKeep (c : Char) : Prop := c ≠ '%' ∧ c ∉ separators ∧ Text.isBlank c = false

instance : DecidablePred MayKeep := fun c =>
  inferInstanceAs (Decidable (c ≠ '%' ∧ c ∉ separators ∧ Text.isBlank c = false))

def portChars : Option Nat → List Char
  | some n => ':' :: Decimal.digitChars n
  | none => []

/-- A way to write the path: behind a slash, or not at all if it is empty. -/
def PathWritten (path : String) (tail : List Char) : Prop :=
  tail = [] ∧ path = "" ∨ ∃ t, tail = '/' :: t ∧ Percent.Escaped MayKeep path.toList t

def addressChars (p : UrlParts) : List Char := p.host.toList ++ portChars p.port

/-- Credentials and address, with user and password as they are written. -/
def authorityChars (p : UrlParts) (user password : List Char) : List Char :=
  (user ++ ':' :: password) ++ '@' :: p.addressChars

/-- What stands behind the scheme in a URL with these parts. -/
def Written (p : UrlParts) (rest : List Char) : Prop :=
  ∃ user password tail, Percent.Escaped MayKeep p.user.toList user ∧
    Percent.Escaped MayKeep p.password.toList password ∧ PathWritten p.path tail ∧
    rest = p.authorityChars user password ++ tail

/-- A text with the escapes of all characters that are not to be kept. -/
def encoded (s : String) : List Char := Percent.encode (fun c => decide (MayKeep c)) s.toList

/-- What stands behind the scheme, with no more escapes than there have to be. -/
def chars (p : UrlParts) : List Char :=
  p.authorityChars (encoded p.user) (encoded p.password) ++ '/' :: encoded p.path

theorem escaped_encoded (s : String) : Percent.Escaped MayKeep s.toList (encoded s) :=
  Percent.escaped_encode (fun _ hc => of_decide_eq_true hc) s.toList

theorem written_chars (p : UrlParts) : p.Written p.chars :=
  ⟨_, _, _, escaped_encoded p.user, escaped_encoded p.password,
    .inr ⟨_, rfl, escaped_encoded p.path⟩, rfl⟩

theorem not_mayKeep_sign : ¬MayKeep '%' := fun h => h.1 rfl

theorem plain_of_escaped {s t : List Char} (h : Percent.Escaped MayKeep s t) :
    ∀ c ∈ t, c ∉ separators ∧ Text.isBlank c = false :=
  Percent.forall_mem_of_escaped (P := fun c => c ∉ separators ∧ Text.isBlank c = false)
    (fun _ hc => hc.2) (by decide)
    (fun _ hc => Hex.of_isDigit (P := fun c => c ∉ separators ∧ Text.isBlank c = false)
      (by decide) (by decide) (by decide) hc) h

theorem not_mem_of_escaped {s t : List Char} (h : Percent.Escaped MayKeep s t) {c : Char}
    (hc : c ∈ separators) : c ∉ t := fun hmem => (plain_of_escaped h c hmem).1 hc

theorem isDigit_not_mem_separators {c : Char} (hc : Decimal.isDigit c = true) : c ∉ separators :=
  Decimal.of_isDigit (P := fun c => c ∉ separators) (by decide) hc

theorem not_mem_digitChars {n : Nat} {c : Char} (hc : c ∈ separators) : c ∉ Decimal.digitChars n :=
  fun hmem => isDigit_not_mem_separators (Decimal.isDigit_of_mem_digitChars hmem) hc

/-! ### Cuts -/

theorem cut_of_toList {separator : Char} {s before after : String}
    (hs : s.toList = before.toList ++ separator :: after.toList) (h : separator ∉ before.toList) :
    cut separator s = (before, after) := by
  rw [cut, Text.splitOnce_of_toList hs h, Option.getD_some]

theorem cut_of_not_mem {separator : Char} {s : String} (h : separator ∉ s.toList) :
    cut separator s = (s, "") := by
  rw [cut, Text.splitOnce, Text.splitOnceChars_eq_none_iff.mpr h, Option.map_none, Option.getD_none]

/-! ### Reading -/

theorem readPort?_digitChars {n : Nat} (h : n < 65536) :
    readPort? (String.ofList (Decimal.digitChars n)) = some n := by
  rw [readPort?, String.toList_ofList, Decimal.readNat?_digitChars, Option.filter_some,
    if_pos (by simpa using h)]

theorem hostAndPort_address {p : UrlParts} (hhost : ':' ∉ p.host.toList)
    (hport : ∀ n ∈ p.port, n < 65536) :
    hostAndPort (String.ofList p.addressChars) = .ok (p.host, p.port) := by
  unfold addressChars
  cases hvalue : p.port with
  | none =>
      rw [portChars, List.append_nil, String.ofList_toList, hostAndPort,
        Text.splitLast_of_not_mem hhost]
  | some n =>
      have hsplit : Text.splitLast ':' (String.ofList (p.host.toList ++ portChars (some n))) =
          some (p.host, String.ofList (Decimal.digitChars n)) := by
        apply Text.splitLast_of_toList
        · rw [String.toList_ofList, String.toList_ofList, portChars]
        · rw [String.toList_ofList]
          exact not_mem_digitChars (by decide)
      have hne : String.ofList (Decimal.digitChars n) ≠ "" := by
        intro hempty
        apply Decimal.digitChars_ne_nil n
        rw [← String.toList_ofList (l := Decimal.digitChars n), hempty]
        rfl
      rw [hostAndPort, hsplit]
      dsimp only
      rw [if_neg hne, readPort?_digitChars (hport n hvalue)]

/-- A colon apart, an address has no separators but those of its host. -/
theorem not_mem_addressChars {p : UrlParts} {c : Char} (hc : c ∈ separators) (hcolon : c ≠ ':')
    (hhost : c ∉ p.host.toList) : c ∉ p.addressChars := by
  rw [addressChars, List.mem_append, not_or]
  refine ⟨hhost, ?_⟩
  cases p.port with
  | none => exact List.not_mem_nil
  | some n =>
      rw [portChars, List.mem_cons, not_or]
      exact ⟨hcolon, not_mem_digitChars hc⟩

section Written

variable {p : UrlParts} {user password tail : List Char}
  (huser : Percent.Escaped MayKeep p.user.toList user)
  (hpassword : Percent.Escaped MayKeep p.password.toList password)

theorem decode_ofList {s : String} {t : List Char} (h : Percent.Escaped MayKeep s.toList t) :
    Percent.decode (String.ofList t) = s := by
  apply Percent.decode_of_escaped not_mayKeep_sign
  rwa [String.toList_ofList]

include huser hpassword in
theorem not_mem_authorityChars {c : Char} (hc : c ∈ separators) (hcolon : c ≠ ':') (hat : c ≠ '@')
    (hhost : c ∉ p.host.toList) : c ∉ p.authorityChars user password := by
  simp only [authorityChars, List.mem_append, List.mem_cons, not_or]
  exact ⟨⟨not_mem_of_escaped huser hc, hcolon, not_mem_of_escaped hpassword hc⟩, hat,
    not_mem_addressChars hc hcolon hhost⟩

include huser in
theorem cut_authority (hhost : '@' ∉ p.host.toList) :
    Text.splitLast '@' (String.ofList (p.authorityChars user password)) =
        some (String.ofList (user ++ ':' :: password), String.ofList p.addressChars) ∧
      cut ':' (String.ofList (user ++ ':' :: password)) =
        (String.ofList user, String.ofList password) := by
  constructor
  · apply Text.splitLast_of_toList
    · simp only [String.toList_ofList, authorityChars]
    · rw [String.toList_ofList]
      exact not_mem_addressChars (by decide) (by decide) hhost
  · apply cut_of_toList
    · simp only [String.toList_ofList]
    · rw [String.toList_ofList]
      exact not_mem_of_escaped huser (by decide)

theorem cut_path {authority : List Char} (hauthority : '/' ∉ authority)
    (htail : PathWritten p.path tail) :
    ∃ t : String, cut '/' (String.ofList (authority ++ tail)) = (String.ofList authority, t) ∧
      Percent.decode t = p.path := by
  rcases htail with ⟨rfl, hempty⟩ | ⟨t, rfl, ht⟩
  · refine ⟨"", ?_, ?_⟩
    · rw [List.append_nil]
      apply cut_of_not_mem
      rwa [String.toList_ofList]
    · rw [hempty]
      exact decode_ofList (t := []) .nil
  · refine ⟨String.ofList t, ?_, decode_ofList ht⟩
    apply cut_of_toList
    · simp only [String.toList_ofList]
    · rwa [String.toList_ofList]

theorem question_not_mem_tail (htail : PathWritten p.path tail) : '?' ∉ tail := by
  rcases htail with ⟨rfl, -⟩ | ⟨t, rfl, ht⟩
  · exact List.not_mem_nil
  · rw [List.mem_cons, not_or]
    exact ⟨by decide, not_mem_of_escaped ht (by decide)⟩

end Written

/-- A URL is read as the parts that it was written from. -/
theorem read_of_written {p : UrlParts} {rest : String} (h : p.Written rest.toList)
    (hhost : ∀ c ∈ separators, c ∉ p.host.toList) (hport : ∀ n ∈ p.port, n < 65536) :
    read rest = .ok p := by
  obtain ⟨user, password, tail, huser, hpassword, htail, hrest⟩ := h
  have hquestion : '?' ∉ rest.toList := by
    rw [hrest, List.mem_append, not_or]
    exact ⟨not_mem_authorityChars huser hpassword (by decide) (by decide) (by decide)
      (hhost '?' (by decide)), question_not_mem_tail htail⟩
  have hslash : '/' ∉ p.authorityChars user password :=
    not_mem_authorityChars huser hpassword (by decide) (by decide) (by decide)
      (hhost '/' (by decide))
  obtain ⟨path, hpath, hdecoded⟩ := cut_path hslash htail
  obtain ⟨hcredentials, hnames⟩ := @cut_authority p user password huser (hhost '@' (by decide))
  rw [read, cut_of_not_mem hquestion, ← String.ofList_toList (s := rest), hrest]
  dsimp only
  rw [hpath]
  dsimp only
  rw [hcredentials, Option.getD_some]
  dsimp only
  rw [hnames, hostAndPort_address (hhost ':' (by decide)) hport]
  dsimp only [bind, Except.bind, pure, Except.pure]
  rw [decode_ofList huser, decode_ofList hpassword, hdecoded]

/-! ### Blanks behind a URL -/

theorem isBlank_of_mem_portChars {port : Option Nat} {c : Char} (hc : c ∈ portChars port) :
    Text.isBlank c = false := by
  cases port with
  | none => cases hc
  | some n =>
      rcases List.mem_cons.mp hc with rfl | hdigit
      · rfl
      · exact Decimal.isBlank_of_isDigit (Decimal.isDigit_of_mem_digitChars hdigit)

theorem isBlank_of_mem_tail {path : String} {tail : List Char} (h : PathWritten path tail) {c : Char}
    (hc : c ∈ tail) : Text.isBlank c = false := by
  rcases h with ⟨rfl, -⟩ | ⟨t, rfl, ht⟩
  · cases hc
  · rcases List.mem_cons.mp hc with rfl | hc
    · rfl
    · exact (plain_of_escaped ht c hc).2

theorem isBlank_of_getLast?_trimRight (s : List Char) :
    ∀ c ∈ (Text.trimRight s).getLast?, Text.isBlank c = false := by
  rw [Text.trimRight, List.getLast?_reverse]
  exact Text.head?_dropWhile_isBlank s.reverse

/-- A URL that ends with blanks ends with its host, and without them it is one with a shorter host. -/
theorem exists_written_trimmed {p : UrlParts} {rest : List Char} (h : p.Written rest) :
    ∃ (host : String) (shorter blanks : List Char), Written { p with host := host } shorter ∧
      p.host.toList = host.toList ++ blanks ∧ rest = shorter ++ blanks ∧
      (∀ c ∈ blanks, Text.isBlank c = true) ∧ ∀ c ∈ shorter.getLast?, Text.isBlank c = false := by
  obtain ⟨user, password, tail, huser, hpassword, htail, rfl⟩ := h
  by_cases hend : portChars p.port ++ tail = []
  · obtain ⟨hport, rfl⟩ := List.append_eq_nil_iff.mp hend
    obtain ⟨blanks, hblanks, hhost⟩ := Text.exists_trimRight p.host.toList
    have haddress : ∀ host : String, addressChars { p with host := host } = host.toList := by
      intro host
      rw [addressChars, hport, List.append_nil]
    refine ⟨String.ofList (Text.trimRight p.host.toList), _, blanks,
      ⟨user, password, [], huser, hpassword, htail, rfl⟩, ?_, ?_, hblanks, ?_⟩
    · rwa [String.toList_ofList]
    · simp only [authorityChars, haddress, String.toList_ofList, List.append_nil,
        List.append_assoc, List.cons_append]
      rw [← hhost]
    · intro c hc
      rw [authorityChars, haddress, String.toList_ofList, List.append_nil, List.getLast?_append,
        List.getLast?_cons, Option.some_or, Option.mem_some] at hc
      cases hlast : (Text.trimRight p.host.toList).getLast? with
      | none =>
          rw [hlast] at hc
          rw [← hc]
          rfl
      | some d =>
          rw [hlast] at hc
          rw [← hc]
          exact isBlank_of_getLast?_trimRight _ d hlast
  · refine ⟨p.host, _, [], ⟨user, password, tail, huser, hpassword, htail, rfl⟩,
      (List.append_nil _).symm, (List.append_nil _).symm, List.forall_mem_nil _, ?_⟩
    intro c hc
    have hsplit : p.authorityChars user password ++ tail =
        ((user ++ ':' :: password) ++ '@' :: p.host.toList) ++ (portChars p.port ++ tail) := by
      simp only [authorityChars, addressChars, List.append_assoc, List.cons_append]
    have hmem : c ∈ portChars p.port ++ tail := by
      apply List.mem_of_getLast?
      rwa [hsplit, List.getLast?_append, Option.or_of_isSome (List.getLast?_isSome.mpr hend)] at hc
    rcases List.mem_append.mp hmem with hport | htailMem
    · exact isBlank_of_mem_portChars hport
    · exact isBlank_of_mem_tail htail htailMem

/-! ### Schemes -/

/-- A scheme of servers that take connection strings, in any letter case. -/
def IsServerScheme (scheme : String) : Prop :=
  Text.lower scheme = "mssql" ∨ Text.lower scheme = "sqlserver"

theorem plain_of_isServerScheme {scheme : String} (h : IsServerScheme scheme) {c : Char}
    (hc : c ∈ scheme.toList) : c ≠ ':' ∧ Text.isBlank c = false := by
  apply Text.of_lowerChar (P := fun c => c ≠ ':' ∧ Text.isBlank c = false) (by decide)
  have hlower : ∀ word : String, Text.lower word = word → Text.lower scheme = word →
      word.toList.all (fun d => d ≠ ':' ∧ Text.isBlank d = false) = true →
      Text.lowerChar c ≠ ':' ∧ Text.isBlank (Text.lowerChar c) = false := by
    intro word hword hscheme hall
    have hmem := Text.lowerChar_mem_of_lower_eq (hscheme.trans hword.symm) hc
    rw [hword] at hmem
    exact of_decide_eq_true (List.all_eq_true.mp hall _ hmem)
  rcases h with h | h
  · exact hlower "mssql" (by decide) h (by decide)
  · exact hlower "sqlserver" (by decide) h (by decide)

end UrlParts

namespace BackendConfig

open UrlParts

theorem splitScheme?_append {scheme rest : String} (h : ':' ∉ scheme.toList) :
    splitScheme? (scheme ++ "://" ++ rest) = some (scheme, rest) := by
  have hsplit := Text.splitAtText_append h "//".toList rest.toList
  have htoList : (scheme ++ "://" ++ rest).toList =
      scheme.toList ++ (':' :: "//".toList ++ rest.toList) := by
    rw [String.toList_append, String.toList_append, List.append_assoc]
    rfl
  rw [splitScheme?, htoList]
  change (Text.splitAtText (':' :: "//".toList) _).map _ = _
  rw [hsplit]
  simp only [Option.map_some, String.ofList_toList]

theorem ofScheme_of_isServerScheme {scheme : String} (h : IsServerScheme scheme) (url rest : String) :
    ofScheme url (Text.lower scheme) rest = (read rest).map ofMssqlParts := by
  have hmysql : ¬(Text.lower scheme = "mysql" ∨ Text.lower scheme = "mariadb") := by
    rcases h with h | h <;> simp [h]
  have hpostgres : ¬(Text.lower scheme = "postgres" ∨ Text.lower scheme = "postgresql") := by
    rcases h with h | h <;> simp [h]
  rw [ofScheme, if_neg hmysql, if_neg hpostgres]
  exact if_pos h

/-- Only what is left without blanks around it counts. -/
theorem ofUrl_congr {url other : String} (h : Text.trim url = Text.trim other) :
    ofUrl url = ofUrl other := by
  rw [ofUrl, ofUrl, h]

theorem trim_serverUrl {scheme rest : String} (hscheme : IsServerScheme scheme)
    (hlast : ∀ c ∈ rest.toList.getLast?, Text.isBlank c = false) :
    Text.trim (scheme ++ "://" ++ rest) = scheme ++ "://" ++ rest := by
  have hsign : ∀ c ∈ "://".toList, Text.isBlank c = false := by simp [Text.isBlank]
  apply Text.trim_of_trimmed
  rw [String.toList_append, String.toList_append]
  constructor
  · intro c hc
    have hmem : c ∈ scheme.toList ++ "://".toList := by
      apply List.mem_of_mem_head?
      rwa [List.head?_append, Option.or_of_isSome (by simp)] at hc
    rcases List.mem_append.mp hmem with hmem | hmem
    · exact (plain_of_isServerScheme hscheme hmem).2
    · exact hsign c hmem
  · intro c hc
    rw [List.getLast?_append, Option.mem_def, Option.or_eq_some_iff] at hc
    rcases hc with hc | ⟨-, hc⟩
    · exact hlast c hc
    · rw [List.getLast?_append, Option.or_of_isSome (by rfl)] at hc
      exact hsign c (List.mem_of_mem_getLast? hc)

theorem ofUrl_of_written {scheme rest : String} {p : UrlParts} (hscheme : IsServerScheme scheme)
    (hrest : p.Written rest.toList) (hhost : ∀ c ∈ separators, c ∉ p.host.toList)
    (hport : ∀ n ∈ p.port, n < 65536) (hlast : ∀ c ∈ rest.toList.getLast?, Text.isBlank c = false) :
    ofUrl (scheme ++ "://" ++ rest) = .ok (ofMssqlParts p) := by
  have hslash : '/' ∈ (scheme ++ "://" ++ rest).toList := by
    simp only [String.toList_append, List.mem_append]
    exact .inl (.inr (by decide))
  have hmemory : ∀ name : String, '/' ∉ name.toList → scheme ++ "://" ++ rest ≠ name := by
    rintro name hname rfl
    exact hname hslash
  have hcolon : ':' ∉ scheme.toList := fun hmem => (plain_of_isServerScheme hscheme hmem).1 rfl
  rw [ofUrl, trim_serverUrl hscheme hlast,
    if_neg (not_or.mpr ⟨hmemory _ (by decide), hmemory _ (by decide)⟩), splitScheme?_append hcolon]
  dsimp only
  rw [ofScheme_of_isServerScheme hscheme, read_of_written hrest hhost hport]
  rfl

/-- A URL of a server gives its own parts, without any blanks that it ends with. -/
theorem exists_ofUrl_eq {scheme rest : String} {p : UrlParts} (hscheme : IsServerScheme scheme)
    (hrest : p.Written rest.toList) (hhost : ∀ c ∈ separators, c ∉ p.host.toList)
    (hport : ∀ n ∈ p.port, n < 65536) :
    ∃ (host : String) (blanks : List Char), p.host.toList = host.toList ++ blanks ∧
      (blanks = [] ↔ ∀ c ∈ rest.toList.getLast?, Text.isBlank c = false) ∧
      ofUrl (scheme ++ "://" ++ rest) = .ok (ofMssqlParts { p with host := host }) := by
  obtain ⟨host, shorter, blanks, hwritten, hsplit, hshorter, hblanks, hlast⟩ :=
    exists_written_trimmed hrest
  refine ⟨host, blanks, hsplit, ?_, ?_⟩
  · rw [hshorter]
    constructor
    · rintro rfl
      rwa [List.append_nil]
    · intro hend
      cases hfinal : blanks.getLast? with
      | none => exact List.getLast?_eq_none_iff.mp hfinal
      | some c =>
          have hblank := hblanks c (List.mem_of_getLast? hfinal)
          rw [hend c (by rw [List.getLast?_append, hfinal]; rfl)] at hblank
          cases hblank
  · have hnone : ∀ c ∈ ([] : List Char), Text.isBlank c = true := List.forall_mem_nil _
    have htrim : Text.trim (scheme ++ "://" ++ rest) =
        Text.trim (scheme ++ "://" ++ String.ofList shorter) := by
      rw [Text.trim, Text.trim]
      have hbetween := Text.trimChars_between hnone hblanks
        (scheme ++ "://" ++ String.ofList shorter).toList
      rw [← hbetween]
      simp only [String.toList_append, String.toList_ofList, hshorter, List.nil_append,
        List.append_assoc]
    rw [ofUrl_congr htrim]
    apply ofUrl_of_written hscheme
    · rwa [String.toList_ofList]
    · intro c hc hmem
      apply hhost c hc
      rw [hsplit]
      exact List.mem_append_left blanks hmem
    · exact hport
    · rwa [String.toList_ofList]

end BackendConfig

end DataAccess
