import MaxKey.Base32
import MaxKey.Delimited
import MaxKey.Interleaving
import MaxKey.OtpReplays
import MaxKey.Scanning

namespace MaxKey.OtpEnrollments
open OtpAlgorithms OtpAuthns OtpReplays Logon Comparisons JavaException Effects Interleaving
open BigEndian

/-! ### The text of a code -/

structure KeyUriFormat where
  type : String := "totp"
  secret : Option String := none
  issuer : Option String := none
  domain : Option String := none
  digits : ℤ := 6
  counter : ℤ := 0
  period : ℤ := 30

namespace KeyUriFormat

def isTotp (f : KeyUriFormat) : Bool := JavaText.equalsIgnoreCase f.type "totp"
def isHotp (f : KeyUriFormat) : Bool := JavaText.equalsIgnoreCase f.type "hotp"

/-- Nothing is escaped. -/
def format (f : KeyUriFormat) (account : String) : String :=
  "otpauth://" ++ f.type ++ "/" ++
    (f.domain.elim account fun domain => domain ++ "/" ++ account) ++
    "?secret=" ++ f.secret.getD "null" ++
    (f.issuer.elim "" fun issuer => "&issuer=" ++ issuer) ++
    (if f.digits ≠ 6 then "&digits=" ++ toString f.digits else "") ++
    (if f.isTotp ∧ f.period ≠ 30 then "&period=" ++ toString f.period else "") ++
    (if f.isHotp then "&counter=" ++ toString f.counter else "")

end KeyUriFormat

/-! ### What an authenticator reads -/

structure KeyUri where
  type : String
  label : String
  parameters : List (String × String)

namespace KeyUri

/-- The name is what comes before the first sign. -/
def parsePart (part : List Char) : String × String :=
  (String.ofList (part.takeWhile (· ≠ '=')), String.ofList (part.dropWhile (· ≠ '=')).tail)

def parse (uri : String) : Option KeyUri :=
  if "otpauth://".toList.isPrefixOf uri.toList then
    let rest := uri.toList.drop 10
    let path := rest.takeWhile (· ≠ '?')
    let query := (rest.dropWhile (· ≠ '?')).tail
    some
      { type := String.ofList (path.takeWhile (· ≠ '/'))
        label := String.ofList (path.dropWhile (· ≠ '/')).tail
        parameters := (query.splitOn '&').map parsePart }
  else none

def number (uri : KeyUri) (name : String) (standard : ℕ) : Option ℕ :=
  (uri.parameters.lookup name).elim (some standard) fun text => unsigned 10 text.toList

/-- The code that is shown at a time. -/
def totp (p : Provider) (uri : KeyUri) (now : ℕ) : Option String := do
  let secret ← uri.parameters.lookup "secret"
  let digits ← uri.number "digits" 6
  let period ← uri.number "period" 30
  return hotp p (Base32.decode secret) (now / 1000 / period) digits

end KeyUri

section Format

variable {f : KeyUriFormat} {account : String}

def KeyUriFormat.label (f : KeyUriFormat) (account : String) : String :=
  f.domain.elim account fun domain => domain ++ "/" ++ account

/-- The parameters with their names. -/
def KeyUriFormat.parameters (f : KeyUriFormat) : List (String × String) :=
  ("secret", f.secret.getD "null") ::
    ((f.issuer.map fun issuer => ("issuer", issuer)).toList ++
      ((if f.digits ≠ 6 then [("digits", toString f.digits)] else []) ++
        ((if f.isTotp ∧ f.period ≠ 30 then [("period", toString f.period)] else []) ++
          if f.isHotp then [("counter", toString f.counter)] else [])))

/-- No sign that separates the parts of the text occurs in one of them. -/
structure KeyUriFormat.Plain (f : KeyUriFormat) (account : String) : Prop where
  type : '/' ∉ f.type.toList ∧ '?' ∉ f.type.toList
  label : '?' ∉ (f.label account).toList
  secret : '&' ∉ (f.secret.getD "null").toList
  issuer : ∀ issuer ∈ f.issuer, '&' ∉ issuer.toList

def joined (parameter : String × String) : List Char :=
  parameter.1.toList ++ '=' :: parameter.2.toList

theorem toList_format (f : KeyUriFormat) (account : String) :
    (f.format account).toList = "otpauth://".toList ++ (f.type.toList ++ '/' ::
      ((f.label account).toList ++ '?' :: ['&'].intercalate (f.parameters.map joined))) := by
  have hlabel : (f.domain.elim account fun domain => domain ++ "/" ++ account) = f.label account :=
    rfl
  have hissuer : (f.issuer.elim "" fun issuer => "&issuer=" ++ issuer).toList =
      ((f.issuer.map fun issuer => ("issuer", issuer)).toList.map joined).flatMap (['&'] ++ ·) := by
    cases f.issuer with
    | none => rfl
    | some issuer =>
      rw [Option.elim_some, String.toList_append]
      simp [joined]
  unfold KeyUriFormat.format KeyUriFormat.parameters
  rw [hlabel, List.map_cons, Delimited.intercalate_cons]
  simp only [String.toList_append, hissuer, List.map_append, List.flatMap_append, List.append_assoc]
  split_ifs <;> simp [joined]

theorem notMem_toString {c : Char} (hc : c.isDigit = false ∧ c ≠ '-') (n : ℤ) :
    c ∉ (toString n).toList := by
  have hdigits : ∀ m, c ∉ Nat.toDigits 10 m := by
    intro m hmem
    rw [Nat.isDigit_of_mem_toDigits (by decide) (by decide) hmem] at hc
    cases hc.1
  cases n with
  | ofNat m =>
    have htext : (toString (Int.ofNat m)).toList = Nat.toDigits 10 m := Nat.toList_repr
    rw [htext]
    exact hdigits m
  | negSucc m =>
    have htext : (toString (Int.negSucc m)).toList = '-' :: Nat.toDigits 10 (m + 1) := by
      rw [← Nat.toList_repr]
      exact String.toList_append
    rw [htext, List.mem_cons, not_or]
    exact ⟨hc.2, hdigits _⟩

theorem mem_parameters {parameter : String × String} (hmem : parameter ∈ f.parameters) :
    parameter = ("secret", f.secret.getD "null") ∨
      (∃ issuer ∈ f.issuer, parameter = ("issuer", issuer)) ∨
      ∃ n : ℤ, parameter.2 = toString n ∧ parameter.1 ∈ ["digits", "period", "counter"] := by
  unfold KeyUriFormat.parameters at hmem
  simp only [List.mem_cons, List.mem_append, Option.mem_toList, Option.map_eq_some_iff] at hmem
  rcases hmem with h | ⟨issuer, h, rfl⟩ | h | h | h
  · exact .inl h
  · exact .inr (.inl ⟨issuer, h, rfl⟩)
  all_goals
    split_ifs at h
    · rw [List.mem_singleton.mp h]
      exact .inr (.inr ⟨_, rfl, by simp⟩)
    · cases h

theorem parsePart_joined {parameter : String × String} (h : '=' ∉ parameter.1.toList) :
    KeyUri.parsePart (joined parameter) = parameter := by
  unfold KeyUri.parsePart joined
  rw [Scanning.takeWhile_append_cons h, Scanning.dropWhile_append_cons h, List.tail_cons,
    String.ofList_toList, String.ofList_toList]

/-- What is formatted is read back. -/
theorem parse_format (h : f.Plain account) :
    KeyUri.parse (f.format account) = some ⟨f.type, f.label account, f.parameters⟩ := by
  have hnames : ∀ parameter ∈ f.parameters, '=' ∉ parameter.1.toList ∧ '&' ∉ joined parameter := by
    have hliterals : ∀ name ∈ ["secret", "issuer", "digits", "period", "counter"],
        '=' ∉ name.toList ∧ '&' ∉ name.toList := by decide
    have hjoined : ∀ name ∈ ["secret", "issuer", "digits", "period", "counter"], ∀ text : String,
        '&' ∉ text.toList → '=' ∉ name.toList ∧ '&' ∉ joined (name, text) := by
      intro name hname text htext
      refine ⟨(hliterals name hname).1, ?_⟩
      unfold joined
      rw [List.mem_append, List.mem_cons]
      rintro (hmem | hmem | hmem)
      · exact (hliterals name hname).2 hmem
      · exact absurd hmem (by decide)
      · exact htext hmem
    intro parameter hmem
    rcases mem_parameters hmem with rfl | ⟨issuer, hissuer, rfl⟩ | ⟨n, hvalue, hname⟩
    · exact hjoined _ (by simp) _ h.secret
    · exact hjoined _ (by simp) _ (h.issuer issuer hissuer)
    · have hmore := hjoined parameter.1 (List.mem_cons_of_mem _ (List.mem_cons_of_mem _ hname))
        parameter.2 (hvalue ▸ notMem_toString (by decide) n)
      exact hmore
  have hpath : '?' ∉ f.type.toList ++ '/' :: (f.label account).toList := by
    rw [List.mem_append, List.mem_cons]
    rintro (hmem | hmem | hmem)
    · exact h.type.2 hmem
    · exact absurd hmem (by decide)
    · exact h.label hmem
  have htext := toList_format f account
  have hscheme : "otpauth://".toList.isPrefixOf (f.format account).toList = true := by
    rw [htext, List.isPrefixOf_iff_prefix]
    exact List.prefix_append _ _
  have hrest : (f.format account).toList.drop 10 =
      (f.type.toList ++ '/' :: (f.label account).toList) ++
        '?' :: ['&'].intercalate (f.parameters.map joined) := by
    rw [htext, List.drop_left' (by decide : "otpauth://".toList.length = 10), List.append_assoc, List.cons_append]
  have hparts : (['&'].intercalate (f.parameters.map joined)).splitOn '&' =
      f.parameters.map joined := by
    have hne : f.parameters.map joined ≠ [] := List.cons_ne_nil _ _
    rw [Delimited.splitOn_intercalate hne, Delimited.flatMap_splitOn]
    intro part hpart
    obtain ⟨parameter, hmem, rfl⟩ := List.mem_map.mp hpart
    exact (hnames parameter hmem).2
  have hparameters : (f.parameters.map joined).map KeyUri.parsePart = f.parameters := by
    rw [List.map_map]
    refine (List.map_congr_left fun parameter hmem => ?_).trans (List.map_id _)
    exact parsePart_joined (hnames parameter hmem).1
  unfold KeyUri.parse
  simp only [if_pos hscheme, hrest]
  rw [Scanning.takeWhile_append_cons hpath, Scanning.dropWhile_append_cons hpath, List.tail_cons,
    Scanning.takeWhile_append_cons h.type.1, Scanning.dropWhile_append_cons h.type.1, List.tail_cons,
    hparts, hparameters, String.ofList_toList, String.ofList_toList]

end Format

/-! ### The pages of all users -/

inductive Page
  | timebased | counterbased | hotp
  deriving DecidableEq

/-- A request for a page, with the user of its session. -/
structure Visit where
  page : Page
  userInfo : UserInfo

/-- Where a request stands: each constructor is the access to a field of the one KeyUriFormat that
comes next. -/
inductive Thread
  | setSecret (v : Visit)
  | setCounter (v : Visit)
  | readSecret (v : Visit)
  | readCounter (v : Visit) (secret : Option String)
  | shown (v : Visit) (uri : String)
  | failed (v : Visit)

/-- The fields of the KeyUriFormat that the pages set. -/
structure Shared where
  secret : Cell (Option String) := ⟨none, none⟩
  counter : Cell ℤ := ⟨0, none⟩

def Thread.visit : Thread → Visit
  | setSecret v | setCounter v | readSecret v | readCounter v _ | shown v _ | failed v => v

variable (decoder : String → Except JavaException String) (f : KeyUriFormat)

def Visit.sharedSecret (v : Visit) : Except JavaException String :=
  orNull v.userInfo.sharedSecret >>= decoder

def Visit.sharedCounter (v : Visit) : Except JavaException ℤ := parseLong v.userInfo.sharedCounter

def setSecret (k : ℕ) (v : Visit) (s : Shared) : Thread × Shared :=
  match v.sharedSecret decoder with
  | .error _ => (.failed v, s)
  | .ok secret =>
    (if v.page = .timebased then .readSecret v else .setCounter v,
      { s with secret := .write k (some secret) })

def setCounter (k : ℕ) (v : Visit) (s : Shared) : Thread × Shared :=
  match v.sharedCounter with
  | .error _ => (.failed v, s)
  | .ok counter => (.readSecret v, { s with counter := .write k counter })

/-- One step of the request with the number `k`. The format reads the two fields one after the
other. -/
def next (k : ℕ) : Thread → Shared → Thread × Shared
  | .setSecret v, s => setSecret decoder k v s
  | .setCounter v, s => setCounter k v s
  | .readSecret v, s => (.readCounter v s.secret.value, s)
  | .readCounter v secret, s =>
    (.shown v ({ f with secret := secret, counter := s.counter.value }.format v.userInfo.username), s)
  | .shown v uri, s => (.shown v uri, s)
  | .failed v, s => (.failed v, s)

def program : Program Visit Thread Shared := ⟨.setSecret, next decoder f⟩

def run (moves : List (Move Visit)) : Config Shared Thread :=
  Runs.exec (program decoder f).move { shared := {} } moves

/-- What a request reads is what it has set itself. -/
def Own (k : ℕ) : Thread → Shared → Prop
  | .readSecret _, s => s.secret.writer = some k
  | .readCounter v _, s => v.page = .timebased ∨ s.counter.writer = some k
  | _, _ => True

instance (k : ℕ) (t : Thread) (s : Shared) : Decidable (Own k t s) :=
  match t with
  | .readSecret _ => inferInstanceAs (Decidable (_ = _))
  | .readCounter _ _ => inferInstanceAs (Decidable (_ ∨ _))
  | .setSecret _ | .setCounter _ | .shown _ _ | .failed _ => isTrue trivial

/-- The text is made of the secret and, but for the page that has no use for it, the counter. -/
def Visit.Shows (v : Visit) (uri : String) : Prop :=
  ∃ secret counter, v.sharedSecret decoder = .ok secret ∧
    (v.page = .timebased ∨ v.sharedCounter = .ok counter) ∧
    uri = { f with secret := some secret, counter := counter }.format v.userInfo.username

section Runs

variable {decoder f} {k n : ℕ} {t : Thread} {s : Shared}

/-- The page ends without a change, or the secret of its user is written. -/
theorem setSecret_cases (decoder : String → Except JavaException String) (k : ℕ) (v : Visit)
    (s : Shared) : setSecret decoder k v s = (.failed v, s) ∨
      ∃ secret, v.sharedSecret decoder = .ok secret ∧ setSecret decoder k v s =
        (if v.page = .timebased then .readSecret v else .setCounter v,
          { s with secret := .write k (some secret) }) := by
  unfold setSecret
  cases v.sharedSecret decoder with
  | error e => exact .inl rfl
  | ok secret => exact .inr ⟨secret, rfl, rfl⟩

theorem setCounter_cases (k : ℕ) (v : Visit) (s : Shared) : setCounter k v s = (.failed v, s) ∨
    ∃ counter, v.sharedCounter = .ok counter ∧
      setCounter k v s = (.readSecret v, { s with counter := .write k counter }) := by
  unfold setCounter
  cases v.sharedCounter with
  | error e => exact .inl rfl
  | ok counter => exact .inr ⟨counter, rfl, rfl⟩

theorem visit_next : (next decoder f k t s).1.visit = t.visit := by
  cases t with
  | setSecret v =>
    rcases setSecret_cases decoder k v s with h | ⟨secret, -, h⟩
    · rw [next, h]
      rfl
    · rw [next, h]
      dsimp only
      split_ifs <;> rfl
  | setCounter v =>
    rcases setCounter_cases k v s with h | ⟨counter, -, h⟩ <;> rw [next, h] <;> rfl
  | readSecret v => rfl
  | readCounter v secret => rfl
  | shown v uri => rfl
  | failed v => rfl

variable (decoder f k t s) in
/-- A step leaves the secret, or it is the one that sets it. -/
theorem secret_next : (next decoder f k t s).2.secret = s.secret ∨
    ∃ v secret, t = .setSecret v ∧ v.sharedSecret decoder = .ok secret ∧
      (next decoder f k t s).2.secret = .write k (some secret) := by
  cases t with
  | setSecret v =>
    rcases setSecret_cases decoder k v s with h | ⟨secret, hsecret, h⟩
    · rw [next, h]
      exact .inl rfl
    · rw [next, h]
      exact .inr ⟨v, secret, rfl, hsecret, rfl⟩
  | setCounter v =>
    rcases setCounter_cases k v s with h | ⟨counter, -, h⟩ <;> rw [next, h] <;> exact .inl rfl
  | readSecret v => exact .inl rfl
  | readCounter v secret => exact .inl rfl
  | shown v uri => exact .inl rfl
  | failed v => exact .inl rfl

variable (decoder f k t s) in
theorem counter_next : (next decoder f k t s).2.counter = s.counter ∨
    ∃ v counter, t = .setCounter v ∧ v.sharedCounter = .ok counter ∧
      (next decoder f k t s).2.counter = .write k counter := by
  cases t with
  | setCounter v =>
    rcases setCounter_cases k v s with h | ⟨counter, hcounter, h⟩
    · rw [next, h]
      exact .inl rfl
    · rw [next, h]
      exact .inr ⟨v, counter, rfl, hcounter, rfl⟩
  | setSecret v =>
    rcases setSecret_cases decoder k v s with h | ⟨secret, -, h⟩ <;> rw [next, h] <;> exact .inl rfl
  | readSecret v => exact .inl rfl
  | readCounter v secret => exact .inl rfl
  | shown v uri => exact .inl rfl
  | failed v => exact .inl rfl

theorem touched_next : s.secret.Touched k (next decoder f k t s).2.secret ∧
    s.counter.Touched k (next decoder f k t s).2.counter := by
  constructor
  · rcases secret_next decoder f k t s with h | ⟨v, secret, -, -, h⟩
    · exact .inl h
    · exact .inr (congrArg Cell.writer h)
  · rcases counter_next decoder f k t s with h | ⟨v, counter, -, -, h⟩
    · exact .inl h
    · exact .inr (congrArg Cell.writer h)

/-! Every text is made of what requests have set. -/

/-- The secret is that of a user who has asked for a page. -/
def FromVisit (decoder : String → Except JavaException String) (threads : List Thread)
    (secret : Option String) : Prop :=
  ∃ u ∈ threads, ∃ text, u.visit.sharedSecret decoder = .ok text ∧ secret = some text

/-- A request that has set a secret finds one, its own or that of another. -/
def Backed (decoder : String → Except JavaException String) (f : KeyUriFormat)
    (threads : List Thread) (s : Shared) : Thread → Prop
  | .setCounter _ | .readSecret _ => s.secret.value ≠ none
  | .readCounter _ secret => FromVisit decoder threads secret
  | .shown v uri => ∃ secret counter, FromVisit decoder threads secret ∧
      uri = { f with secret := secret, counter := counter }.format v.userInfo.username
  | _ => True

/-- The invariant of all runs. -/
structure Sourced (decoder : String → Except JavaException String) (f : KeyUriFormat)
    (c : Config Shared Thread) : Prop where
  secret : c.shared.secret.value = none ∨ FromVisit decoder c.threads c.shared.secret.value
  threads : ∀ t ∈ c.threads, Backed decoder f c.threads c.shared t

theorem FromVisit.mono {threads threads' : List Thread} {secret : Option String}
    (h : FromVisit decoder threads secret)
    (hvisits : ∀ u ∈ threads, ∃ u' ∈ threads', u'.visit = u.visit) :
    FromVisit decoder threads' secret := by
  obtain ⟨u, hu, text, htext, hsecret⟩ := h
  obtain ⟨u', hu', hvisit⟩ := hvisits u hu
  exact ⟨u', hu', text, hvisit ▸ htext, hsecret⟩

theorem Backed.mono {threads threads' : List Thread} {s' : Shared}
    (h : Backed decoder f threads s t)
    (hvisits : ∀ u ∈ threads, ∃ u' ∈ threads', u'.visit = u.visit)
    (hsecret : s.secret.value ≠ none → s'.secret.value ≠ none) :
    Backed decoder f threads' s' t := by
  cases t with
  | setSecret v => trivial
  | setCounter v => exact hsecret h
  | readSecret v => exact hsecret h
  | readCounter v secret => exact FromVisit.mono h hvisits
  | shown v uri =>
    obtain ⟨secret, counter, hfrom, huri⟩ := h
    exact ⟨secret, counter, hfrom.mono hvisits, huri⟩
  | failed v => trivial

theorem secret_kept (h : s.secret.value ≠ none) :
    (next decoder f k t s).2.secret.value ≠ none := by
  rcases secret_next decoder f k t s with hsame | ⟨v, secret, -, -, hset⟩
  · rw [hsame]
    exact h
  · rw [hset]
    exact Option.some_ne_none _

theorem source_next {threads : List Thread} (ht : t ∈ threads)
    (h : s.secret.value = none ∨ FromVisit decoder threads s.secret.value) :
    (next decoder f k t s).2.secret.value = none ∨
      FromVisit decoder threads (next decoder f k t s).2.secret.value := by
  rcases secret_next decoder f k t s with hsame | ⟨v, secret, rfl, hsecret, hset⟩
  · rw [hsame]
    exact h
  · rw [hset]
    exact .inr ⟨.setSecret v, ht, secret, hsecret, rfl⟩

/-- A step takes a request to a place where it is backed again. -/
theorem backed_next {threads : List Thread} (hback : Backed decoder f threads s t)
    (h : s.secret.value = none ∨ FromVisit decoder threads s.secret.value) :
    Backed decoder f threads (next decoder f k t s).2 (next decoder f k t s).1 := by
  cases t with
  | setSecret v =>
    rcases setSecret_cases decoder k v s with hstep | ⟨secret, -, hstep⟩
    · rw [next, hstep]
      trivial
    · rw [next, hstep]
      dsimp only
      split_ifs <;> exact Option.some_ne_none _
  | setCounter v =>
    rcases setCounter_cases k v s with hstep | ⟨counter, -, hstep⟩
    · rw [next, hstep]
      trivial
    · rw [next, hstep]
      exact hback
  -- a secret that was found is there, since none is ever taken away
  | readSecret v => exact h.resolve_left hback
  | readCounter v secret => exact ⟨secret, _, hback, rfl⟩
  | shown v uri => exact hback
  | failed v => trivial

/-- The user of a request stays the same when it moves on. -/
theorem visits_set {threads : List Thread} (hk : threads[k]? = some t) :
    ∀ u ∈ threads, ∃ u' ∈ threads.set k (next decoder f k t s).1, u'.visit = u.visit := by
  obtain ⟨hlt, rfl⟩ := List.getElem?_eq_some_iff.mp hk
  intro u hu
  obtain ⟨j, hj, rfl⟩ := List.getElem_of_mem hu
  by_cases hjk : j = k
  · subst hjk
    exact ⟨_, List.mem_set hlt _, visit_next⟩
  · refine ⟨threads[j], ?_, rfl⟩
    apply List.mem_of_getElem?
    rw [List.getElem?_set_ne (Ne.symm hjk)]
    exact List.getElem?_eq_getElem hj

theorem sourced_move (c : Config Shared Thread) (m : Move Visit) (h : Sourced decoder f c) :
    Sourced decoder f ((program decoder f).move c m) := by
  cases m with
  | start v =>
    have hvisits : ∀ u ∈ c.threads, ∃ u' ∈ c.threads ++ [.setSecret v], u'.visit = u.visit :=
      fun u hu => ⟨u, List.mem_append_left _ hu, rfl⟩
    refine ⟨h.secret.imp id fun hfrom => hfrom.mono hvisits, ?_⟩
    intro t ht
    rcases List.mem_append.mp ht with ht | ht
    · exact (h.threads t ht).mono hvisits id
    · rw [List.mem_singleton.mp ht]
      trivial
  | advance k =>
    cases hk : c.threads[k]? with
    | none =>
      rw [Program.move_advance_of_none hk]
      exact h
    | some t =>
      have ht : t ∈ c.threads := List.mem_of_getElem? hk
      rw [Program.move_advance_of_some hk]
      refine ⟨(source_next ht h.secret).imp id fun hfrom => hfrom.mono (visits_set hk), ?_⟩
      intro u hu
      rcases List.mem_or_eq_of_mem_set hu with hu | rfl
      · exact (h.threads u hu).mono (visits_set hk) secret_kept
      · exact (backed_next (h.threads t ht) h.secret).mono (visits_set hk) id

/-- Whoever opens a page is shown his own name, and the secret of a user who opened one too. -/
theorem shown_secret_has_owner (decoder : String → Except JavaException String) (f : KeyUriFormat)
    (moves : List (Move Visit)) {v : Visit} {uri : String}
    (h : .shown v uri ∈ (run decoder f moves).threads) :
    ∃ u ∈ (run decoder f moves).threads, ∃ secret counter,
      u.visit.sharedSecret decoder = .ok secret ∧
        uri = { f with secret := some secret, counter := counter }.format v.userInfo.username := by
  have hstart : Sourced decoder f { shared := {} } :=
    ⟨.inl rfl, fun t ht => absurd ht List.not_mem_nil⟩
  have hsourced : Sourced decoder f (run decoder f moves) :=
    Runs.exec_induction sourced_move hstart moves
  obtain ⟨_, counter, ⟨u, hu, secret, hsecret, rfl⟩, huri⟩ := hsourced.threads _ h
  exact ⟨u, hu, secret, counter, hsecret, huri⟩

/-- The settings that the server has where none are given. -/
def maxKeyTop : KeyUriFormat := { domain := some "MaxKey.top", issuer := some "MaxKey" }

def frank : Visit := ⟨.timebased, frankAt "0"⟩

def ann : Visit := ⟨.timebased, { id := "2", username := "ann", sharedSecret := some "MFXG4" }⟩

/-- frank sets his secret before ann reads hers. -/
def crossing : List (Move Visit) :=
  [.start ann, .start frank, .advance 0, .advance 1, .advance 0, .advance 0]

def secretOfFrank : KeyUriFormat :=
  { maxKeyTop with secret := some "GEZDGNBVGY3TQOJQGEZDGNBVGY3TQOJQ" }

theorem threads_crossing : (run .ok maxKeyTop crossing).threads =
    [.shown ann (secretOfFrank.format ann.userInfo.username), .readSecret frank] := rfl

/-- Whoever reads the code that ann is shown makes the codes of frank. -/
theorem ann_is_shown_the_secret_of_frank :
    .shown ann (secretOfFrank.format ann.userInfo.username) ∈
        (run .ok maxKeyTop crossing).threads ∧
      ∃ u ∈ (run .ok maxKeyTop crossing).threads, ∃ secret counter,
        u.visit.sharedSecret .ok = .ok secret ∧ secretOfFrank.format ann.userInfo.username =
          { maxKeyTop with secret := some secret, counter := counter }.format
            ann.userInfo.username := by
  have hshown : .shown ann (secretOfFrank.format ann.userInfo.username) ∈
      (run .ok maxKeyTop crossing).threads := by
    rw [threads_crossing]
    exact List.mem_cons_self
  exact ⟨hshown, shown_secret_has_owner .ok maxKeyTop crossing hshown⟩

/-! Pages that do not meet. -/

def Visit.OwnSecret (decoder : String → Except JavaException String) (v : Visit)
    (secret : Option String) : Prop :=
  ∃ text, v.sharedSecret decoder = .ok text ∧ secret = some text

/-- What the counter holds while the request is its writer. -/
def Visit.OwnCounter (k : ℕ) (v : Visit) (s : Shared) : Prop :=
  v.page = .timebased ∨ (s.counter.writer = some k → v.sharedCounter = .ok s.counter.value)

/-- What holds of a request where it stands. -/
def Here (decoder : String → Except JavaException String) (f : KeyUriFormat) (k : ℕ) :
    Thread → Shared → Prop
  | .setSecret _, s => s.secret.writer ≠ some k ∧ s.counter.writer ≠ some k
  | .setCounter v, s => s.secret.writer = some k → v.OwnSecret decoder s.secret.value
  | .readSecret v, s =>
    (s.secret.writer = some k → v.OwnSecret decoder s.secret.value) ∧ v.OwnCounter k s
  | .readCounter v secret, s => v.OwnSecret decoder secret ∧ v.OwnCounter k s
  | .shown v uri, _ => v.Shows decoder f uri
  | .failed _, _ => True

/-- Only requests that have begun are writers. -/
def Begun (n : ℕ) (s : Shared) : Prop :=
  (∀ j, s.secret.writer = some j → j < n) ∧ ∀ j, s.counter.writer = some j → j < n

theorem begun_next (hk : k < n) (h : Begun n s) : Begun n (next decoder f k t s).2 := by
  constructor
  · intro j hj
    rcases secret_next decoder f k t s with hsame | ⟨v, secret, -, -, hset⟩
    · exact h.1 j (hsame ▸ hj)
    · rw [hset] at hj
      exact Option.some.inj hj ▸ hk
  · intro j hj
    rcases counter_next decoder f k t s with hsame | ⟨v, counter, -, -, hset⟩
    · exact h.2 j (hsame ▸ hj)
    · rw [hset] at hj
      exact Option.some.inj hj ▸ hk

theorem here_next (hown : Own k t s) (h : Here decoder f k t s) :
    Here decoder f k (next decoder f k t s).1 (next decoder f k t s).2 := by
  cases t with
  | setSecret v =>
    rcases setSecret_cases decoder k v s with hstep | ⟨secret, hsecret, hstep⟩
    · rw [next, hstep]
      trivial
    · rw [next, hstep]
      dsimp only
      split_ifs with hpage
      · exact ⟨fun _ => ⟨secret, hsecret, rfl⟩, .inl hpage⟩
      · exact fun _ => ⟨secret, hsecret, rfl⟩
  | setCounter v =>
    rcases setCounter_cases k v s with hstep | ⟨counter, hcounter, hstep⟩
    · rw [next, hstep]
      trivial
    · rw [next, hstep]
      exact ⟨h, .inr fun _ => hcounter⟩
  | readSecret v => exact ⟨h.1 hown, h.2⟩
  | readCounter v secret =>
    obtain ⟨text, htext, rfl⟩ := h.1
    refine ⟨text, s.counter.value, htext, ?_, rfl⟩
    rcases hown with hpage | hwriter
    · exact .inl hpage
    · exact h.2.imp id fun hvalue => hvalue hwriter
  | shown v uri => exact h
  | failed v => trivial

/-- Another request can only take the cells over. -/
theorem here_undisturbed {j : ℕ} {u : Thread} (hj : j ≠ k) (h : Here decoder f j u s) :
    Here decoder f j u (next decoder f k t s).2 := by
  obtain ⟨hsecret, hcounter⟩ : s.secret.Touched k (next decoder f k t s).2.secret ∧
      s.counter.Touched k (next decoder f k t s).2.counter := touched_next
  have hvalue : ∀ v : Visit, v.OwnCounter j s → v.OwnCounter j (next decoder f k t s).2 :=
    fun v => Or.imp id fun hv =>
      hcounter.value (P := fun counter => v.sharedCounter = .ok counter) hj hv
  cases u with
  | setSecret v => exact ⟨hsecret.writer_ne hj h.1, hcounter.writer_ne hj h.2⟩
  | setCounter v => exact hsecret.value hj h
  | readSecret v => exact ⟨hsecret.value hj h.1, hvalue v h.2⟩
  | readCounter v secret => exact ⟨h.1, hvalue v h.2⟩
  | shown v uri => exact h
  | failed v => trivial

/-- Where every request reads what it has set itself, every page shows what its user has. -/
theorem outline_run (moves : List (Move Visit))
    (h : Runs.Meets (program decoder f).move (Program.Guarded Own) { shared := {} } moves) :
    Program.Outline Begun (Here decoder f) (run decoder f moves) := by
  have hstart : Program.Outline Begun (Here decoder f) { shared := {} } := by
    refine ⟨⟨fun j hj => ?_, fun j hj => ?_⟩, fun k t hk => ?_⟩
    · exact absurd hj (Option.some_ne_none j).symm
    · exact absurd hj (Option.some_ne_none j).symm
    · exact absurd hk (Option.some_ne_none t).symm
  refine Runs.exec_invariant (Program.outline_move ?_ ?_ ?_) h hstart
  · intro n v s hbegun
    refine ⟨⟨fun j hj => (hbegun.1 j hj).trans (Nat.lt_succ_self n),
      fun j hj => (hbegun.2 j hj).trans (Nat.lt_succ_self n)⟩, ?_, ?_⟩
    · exact fun hwriter => Nat.lt_irrefl n (hbegun.1 n hwriter)
    · exact fun hwriter => Nat.lt_irrefl n (hbegun.2 n hwriter)
  · exact fun n k t s hk hown hbegun hhere => ⟨begun_next hk hbegun, here_next hown hhere⟩
  · exact fun k t j u s hj hhere => here_undisturbed hj hhere

end Runs

/-! ### The code of an authenticator -/

theorem spells_toDigits (n : ℕ) : ∃ ds,
    List.Forall₂ IsHexDigit ((Nat.toDigits 16 n).map Char.toUpper) ds ∧ value 16 ds = n := by
  induction n using Nat.strongRecOn with
  | ind n ih =>
    by_cases hn : n < 16
    · refine ⟨[n], ?_, by simp [value]⟩
      rw [Nat.toDigits_of_lt_base hn]
      exact .cons ⟨hn, .inr rfl⟩ .nil
    · obtain ⟨ds, hds, hvalue⟩ := ih (n / 16) (by omega)
      have hlast : n % 16 < 16 := Nat.mod_lt n (by decide)
      refine ⟨ds ++ [n % 16], ?_, ?_⟩
      · rw [Nat.toDigits_of_base_le (by decide) (by omega), List.map_append]
        exact List.rel_append hds (.cons ⟨hlast, .inr rfl⟩ .nil)
      · rw [value_concat, hvalue]
        omega

/-- A time step is handed over in hexadecimal digits. -/
theorem encodesNumber_toHexString {n : ℕ} (h : n < 18446744073709551616) :
    EncodesNumber (toHexString n) n := by
  have hmod : ((n : ℤ) % 18446744073709551616).toNat = n := by omega
  have hlength := (Nat.length_toDigits_le_iff (by decide : 1 < 16) (by decide : 0 < 16)).mpr
    (show n < 16 ^ 16 from h)
  obtain ⟨ds, hds, hvalue⟩ := spells_toDigits n
  unfold EncodesNumber Spells toHexString
  rw [hmod, String.toList_ofList, List.length_map]
  exact ⟨hlength, ds, hds, hvalue⟩

theorem unsigned_toString (n : ℕ) : unsigned 10 (toString (n : ℤ)).toList = some n := by
  have hdigits : ∀ c ∈ Nat.toDigits 10 n, c.isDigit = true :=
    fun c hc => Nat.isDigit_of_mem_toDigits (by decide) (by decide) hc
  have htext : (toString (n : ℤ)).toList = Nat.toDigits 10 n := Nat.toList_repr
  rw [htext, unsigned_of_isDigit Nat.toDigits_ne_nil hdigits, Nat.ofDigitChars_ten_toDigits]

/-- The texts and the authenticator of the server are set up for the same codes. -/
structure Matches (f : KeyUriFormat) (a : AbstractOptAuthn) (digits period : ℕ) : Prop where
  totp : f.isTotp
  hmacSha1 : JavaText.equalsIgnoreCase a.crypto "HmacSHA1" = true
  digits : f.digits = digits ∧ a.digits = digits ∧ digits ≤ 8
  period : f.period = period ∧ a.interval = period ∧ 0 < period

section Codes

variable {p : Provider} {base32 : String → List UInt8} {f : KeyUriFormat} {a : AbstractOptAuthn}
  {digits period now : ℕ} {key : List UInt8}

theorem expected_timeBased (h : Matches f a digits period) (hkey : key ≠ [])
    (hnow : now < 9223372036854775808) {userInfo : UserInfo} {secret : String}
    (hsecret : userInfo.sharedSecret = some secret) (hbase32 : base32 secret = key) :
    TimeBasedOtpAuthn.expected p base32 a now userInfo =
      .ok (hotp p key (now / 1000 / period) digits) := by
  have hinterval : a.interval ≠ 0 := by
    rw [h.period.2.1]
    exact_mod_cast h.period.2.2.ne'
  have hstep : TimeBasedOtpAuthn.timeStep a now = .ok ((now / 1000 / period : ℕ) : ℤ) := by
    unfold TimeBasedOtpAuthn.timeStep
    rw [if_neg hinterval, h.period.2.1]
    rfl
  have hsmall : now / 1000 / period < 18446744073709551616 := by
    have hle := (Nat.div_le_self (now / 1000) period).trans (Nat.div_le_self now 1000)
    omega
  have hcode := TimeBasedOTP.generateOTP_eq (p := p) hkey (encodesBytes_encodeHexString key)
    (encodesNumber_toHexString hsmall) (d := digits) (h.digits.2.2.trans (by decide))
  rw [if_pos h.digits.2.2] at hcode
  have hdigits : toString a.digits = toString (digits : ℤ) := by rw [h.digits.2.1]
  unfold TimeBasedOtpAuthn.expected
  rw [hsecret, Option.map_some, hbase32, hstep]
  change a.generate p (encodeHexString key) (.ok (toHexString _)) = _
  unfold AbstractOptAuthn.generate
  rw [if_pos h.hmacSha1, hdigits]
  exact hcode

theorem lookup_parameters (f : KeyUriFormat) :
    f.parameters.lookup "secret" = some (f.secret.getD "null") ∧
      f.parameters.lookup "digits" = (if f.digits ≠ 6 then some (toString f.digits) else none) ∧
      f.parameters.lookup "period" =
        if f.isTotp ∧ f.period ≠ 30 then some (toString f.period) else none := by
  unfold KeyUriFormat.parameters
  cases f.issuer <;> split_ifs <;> simp [List.lookup_cons]

theorem number_of_lookup {uri : KeyUri} {name : String} {standard n : ℕ}
    (h : uri.parameters.lookup name = if n ≠ standard then some (toString (n : ℤ)) else none) :
    uri.number name standard = some n := by
  unfold KeyUri.number
  rw [h]
  split_ifs with hn
  · rw [Option.elim_some, unsigned_toString]
  · rw [Option.elim_none, not_not.mp hn]

/-- The authenticator reads the key, the digits and the period. -/
theorem totp_parameters (h : Matches f a digits period) {uri : KeyUri}
    (hsecret : f.secret = some (Base32.encode key)) (huri : uri.parameters = f.parameters) :
    uri.totp p now = some (hotp p key (now / 1000 / period) digits) := by
  obtain ⟨hsecretOf, hdigitsOf, hperiodOf⟩ := lookup_parameters f
  have hdigits : uri.number "digits" 6 = some digits := by
    apply number_of_lookup
    rw [huri, hdigitsOf, h.digits.1]
    norm_cast
  have hperiod : uri.number "period" 30 = some period := by
    apply number_of_lookup
    rw [huri, hperiodOf, h.period.1]
    simp only [h.totp, true_and]
    norm_cast
  unfold KeyUri.totp
  rw [huri, hsecretOf, hsecret, hdigits, hperiod]
  simp [Base32.decode_encode]

/-- Where no page reads what another one has set, the code that an authenticator makes of a page is
accepted at the login of every user who has the secret of the one who opened the page, at any time. -/
theorem enrolled_code_is_accepted (hbase32 : ∀ key, base32 (Base32.encode key) = key)
    (c : Realm.Config) (hmatches : Matches f a digits period) (moves : List (Move Visit))
    (hmoves : Runs.Meets (program c.decoder f).move (Program.Guarded Own) { shared := {} } moves)
    {v : Visit} {uri : String} (hshown : .shown v uri ∈ (run c.decoder f moves).threads)
    (hplain : f.Plain v.userInfo.username) (hkey : key ≠ [])
    (hsecret : v.sharedSecret c.decoder = .ok (Base32.encode key)) {userInfo : UserInfo}
    (hstored : userInfo.sharedSecret = v.userInfo.sharedSecret) (hnow : now < 9223372036854775808)
    (authType : Option String) (w : World) :
    ∃ code, (KeyUri.parse uri).bind (KeyUri.totp p · now) = some code ∧
      tftcaptchaValid (realmAt p base32 c (.timeBased a) now) (some code) authType userInfo w =
        .ok () w := by
  obtain ⟨k, hk⟩ := List.getElem?_of_mem hshown
  obtain ⟨secret, counter, hown, -, rfl⟩ := (outline_run moves hmoves).thread k _ hk
  have hsame : secret = Base32.encode key := Except.ok.inj (hown.symm.trans hsecret)
  have hformat : KeyUriFormat.Plain
      { f with secret := some secret, counter := counter } v.userInfo.username := by
    refine ⟨hplain.type, hplain.label, ?_, hplain.issuer⟩
    intro hamp
    rw [hsame] at hamp
    -- a secret is letters, digits and padding, so that it ends where the next name starts
    rcases Base32.mem_encode hamp with hletter | hpad
    · exact absurd hletter (by decide)
    · exact absurd hpad (by decide)
  have hmatch : Matches { f with secret := some secret, counter := counter } a digits period :=
    ⟨hmatches.totp, hmatches.hmacSha1, hmatches.digits, hmatches.period⟩
  refine ⟨hotp p key (now / 1000 / period) digits, ?_, ?_⟩
  · rw [parse_format hformat, Option.bind_some]
    exact totp_parameters hmatch (congrArg some hsame) rfl
  · refine tftcaptchaValid_eq_ok.mpr ⟨fun _ _ => codeValid_iff.mpr ?_, rfl⟩
    unfold Visit.sharedSecret at hsecret
    rw [← hstored] at hsecret
    cases hencoded : userInfo.sharedSecret with
    | none =>
      rw [hencoded] at hsecret
      cases hsecret
    | some encoded =>
      rw [hencoded] at hsecret
      refine ⟨encoded, _, _, _, hencoded, hsecret, rfl, ?_, JavaText.equalsIgnoreCase_self _⟩
      exact expected_timeBased hmatches hkey hnow rfl (hbase32 key)

/-- frank opens his page, and the authenticator that reads it lets him in. -/
theorem frank_enrolls :
    ∃ code, (KeyUri.parse (secretOfFrank.format frank.userInfo.username)).bind
        (KeyUri.totp testProvider · 225000) = some code ∧
      tftcaptchaValid (realmAt testProvider Base32.decode tfaRealm (.timeBased {}) 225000)
        (some code) (some "tfa") (frankAt "0") frankAlone = .ok () frankAlone := by
  have hmatches : Matches maxKeyTop {} 6 30 :=
    ⟨by decide, by decide, ⟨rfl, rfl, by decide⟩, ⟨rfl, rfl, by decide⟩⟩
  have hplain : maxKeyTop.Plain frank.userInfo.username :=
    ⟨by decide, by decide, by decide, by rintro issuer ⟨⟩; decide⟩
  have hsecret : Base32.encode testSecret = "GEZDGNBVGY3TQOJQGEZDGNBVGY3TQOJQ" := by
    decide +kernel
  have hmoves : Runs.Meets (program tfaRealm.decoder maxKeyTop).move (Program.Guarded Own)
      { shared := {} } [.start frank, .advance 0, .advance 0, .advance 0] := by
    decide
  exact enrolled_code_is_accepted Base32.decode_encode tfaRealm hmatches _ hmoves
    List.mem_cons_self hplain (by decide) (congrArg Except.ok hsecret.symm) rfl (by decide)
    (some "tfa") frankAlone

end Codes

end MaxKey.OtpEnrollments
