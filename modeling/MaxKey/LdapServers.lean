import Mathlib.Data.Bool.AllAny
import MaxKey.Domain
import MaxKey.Effects
import MaxKey.KeyedTable
import MaxKey.LdapFilters
import MaxKey.Runs

namespace MaxKey.LdapServers
open JavaException Effects LdapFilters Runs

/-- An entry of a directory, with the values of its attributes and the passwords it accepts. -/
structure Entry where
  dn : String
  attributes : String → List String
  passwords : List String
  dn_ne : dn ≠ ""

/-- The results of a search in their order, and whether asking for more of them throws. -/
structure NamingEnumeration where
  results : List Entry
  broken : Bool := false

/-- A directory: its entries in the order of its results, what a base and a scope take in, the rules
of its attributes, what filters mean to it that are no single item, after how many results a search
is broken off, and whether a context goes on answering when it has been closed. -/
structure Directory where
  entries : KeyedTable Entry.dn
  inScope : String → Int → Entry → Bool := fun _ _ _ => true
  rule : String → MatchingRule
  irregular : String → Option (Entry → Bool) := fun _ => none
  interrupted : String → Option ℕ := fun _ => none
  answersClosed : Bool := false

namespace Directory

variable (d : Directory)

/-- A bind without a principal or without a password is anonymous. -/
def bind (principal credentials : String) : Bool :=
  principal = "" || credentials = "" ||
    d.entries.rows.any fun e => e.dn = principal && e.passwords.contains credentials

/-- What a filter means, `none` where it is not understood. -/
def understood (filter : String) : Option (Entry → Bool) :=
  match parseItem filter.toList with
  | some item => some fun e => item.assertion.holds (d.rule item.name) (e.attributes item.name)
  | none => d.irregular filter

/-- A search that throws has no answer. -/
def search (baseDN : String) (searchScope : Int) (filter : String) : Option NamingEnumeration :=
  (d.understood filter).map fun p =>
    let found := d.entries.rows.filter fun e => d.inScope baseDN searchScope e && p e
    match (d.interrupted filter).filter (· ≤ found.length) with
    | some n => ⟨found.take n, true⟩
    | none => ⟨found, false⟩

end Directory

inductive DirContext
  | opened
  | closed
  deriving DecidableEq

/-- The connection of a principal to the directory at a provider URL. -/
structure LdapUtils where
  directory : Directory
  principal : String
  credentials : String
  baseDN : String := ""
  searchScope : Int := 2
  ctx : Option DirContext := none

namespace LdapUtils

/-- The context stays as it was where the bind fails. -/
def openConnection (l : LdapUtils) : LdapUtils :=
  if l.directory.bind l.principal l.credentials then { l with ctx := some .opened } else l

def getConnection (l : LdapUtils) : LdapUtils :=
  if l.ctx = none then l.openConnection else l

/-- The context is closed and kept. -/
def close (l : LdapUtils) : LdapUtils := { l with ctx := l.ctx.map fun _ => .closed }

def search (l : LdapUtils) (ctx : DirContext) (filter : String) : Option NamingEnumeration :=
  if ctx = .closed ∧ ¬l.directory.answersClosed then none
  else l.directory.search l.baseDN l.searchScope filter

end LdapUtils

structure LdapServer where
  ldapUtils : LdapUtils
  filterAttribute : String

namespace LdapServer

/-- The name that the loop over the results leaves, also where an exception ends it; `none` where
there is no result. -/
def foundDn : Option NamingEnumeration → Option String
  | none => some ""
  | some ⟨[], broken⟩ => if broken then some "" else none
  | some ⟨results, _⟩ => some (results.foldl (fun _ sr => sr.dn) "")

def queryFilter (server : LdapServer) (username : String) : String :=
  "(" ++ server.filterAttribute ++ "=" ++ username ++ ")"

def authenticate (username password : String) : EStateM JavaException LdapServer Bool := do
  modify fun s => { s with ldapUtils := s.ldapUtils.getConnection }
  let server ← get
  let ctx ← orThrow nullPointer server.ldapUtils.ctx
  let results := server.ldapUtils.search ctx (server.queryFilter username)
  modify fun s => { s with ldapUtils := s.ldapUtils.close }
  match foundDn results with
  | none => return false
  | some dn =>
    let ldapPassWordValid : LdapUtils :=
      { directory := server.ldapUtils.directory, principal := dn, credentials := password }
    return ldapPassWordValid.openConnection.ctx.isSome

end LdapServer

/-- An account of an Active Directory. -/
structure Account where
  name : String
  passwords : List String

/-- An Active Directory, which knows an account by the name of the domain, a backslash and the name
of the account. -/
structure ActiveDirectory where
  domainName : String
  accounts : List Account

def ActiveDirectory.bind (d : ActiveDirectory) (principal credentials : String) : Bool :=
  principal = "" || credentials = "" || d.accounts.any fun account =>
    d.domainName ++ "\\" ++ account.name = principal && account.passwords.contains credentials

/-- The connection of a principal, whose domain was put into upper case. -/
structure ActiveDirectoryUtils where
  directory : ActiveDirectory
  principal : String
  credentials : String
  domain : String
  ctx : Option DirContext := none

namespace ActiveDirectoryUtils

/-- The domain up to its first dot. -/
def shortDomain (domain : String) : String := String.ofList (domain.toList.takeWhile (· ≠ '.'))

def openConnection (l : ActiveDirectoryUtils) : ActiveDirectoryUtils :=
  let domain := shortDomain l.domain
  if l.directory.bind (domain ++ "\\" ++ l.principal) l.credentials then
    { l with domain, ctx := some .opened }
  else { l with domain }

end ActiveDirectoryUtils

/-- `toUpperCase` is String.toUpperCase on the platform. -/
structure ActiveDirectoryServer where
  activeDirectoryUtils : ActiveDirectoryUtils
  toUpperCase : String → String

def ActiveDirectoryServer.authenticate (username password : String) :
    EStateM JavaException ActiveDirectoryServer Bool := do
  let server ← get
  let domain := server.activeDirectoryUtils.domain
  let ldapPassWordValid : ActiveDirectoryUtils :=
    { directory := server.activeDirectoryUtils.directory, principal := domain ++ "\\" ++ username
      credentials := password, domain := server.toUpperCase domain }
  return ldapPassWordValid.openConnection.ctx.isSome

/-- The loop of a realm over its servers. -/
def passwordMatches {σ : Type} (authenticate : EStateM JavaException σ Bool) :
    EStateM JavaException (List σ) Bool
  | [] => .error (badCredentials "login.error.password") []
  | server :: servers =>
    match authenticate server with
    | .ok true s => .ok true (s :: servers)
    | .ok false s =>
      match passwordMatches authenticate servers with
      | .ok isAuthenticated t => .ok isAuthenticated (s :: t)
      | .error e t => .error e (s :: t)
    | .error e s => .error e (s :: servers)

def LdapAuthenticationRealm.passwordMatches (username password : String) :
    EStateM JavaException (List LdapServer) Bool :=
  LdapServers.passwordMatches (LdapServer.authenticate username password)

def ActiveDirectoryAuthenticationRealm.passwordMatches (username password : String) :
    EStateM JavaException (List ActiveDirectoryServer) Bool :=
  LdapServers.passwordMatches (ActiveDirectoryServer.authenticate username password)

/-- A computation returns true. -/
def accepts {σ : Type} (x : EStateM JavaException σ Bool) (s : σ) : Bool :=
  match x s with
  | .ok isAuthenticated _ => isAuthenticated
  | .error _ _ => false

namespace LdapServer

variable (server : LdapServer) (username password : String)

/-- The entries of a user name. -/
def named : List Entry :=
  server.ldapUtils.directory.entries.rows.filter fun e =>
    server.ldapUtils.directory.inScope server.ldapUtils.baseDN server.ldapUtils.searchScope e &&
      (e.attributes server.filterAttribute).any
        ((server.ldapUtils.directory.rule server.filterAttribute).equal
          (username.toList.flatMap String.utf8EncodeChar))

/-- The user name has one entry, and that accepts the password. -/
def Rightly : Prop := ∃ e, server.named username = [e] ∧ password ∈ e.passwords

/-- There is a connection, or one can be opened. -/
def opens : Bool :=
  server.ldapUtils.ctx.isSome ||
    server.ldapUtils.directory.bind server.ldapUtils.principal server.ldapUtils.credentials

/-- What the directory answers to the filter that the user name makes. -/
def answer : Option NamingEnumeration :=
  server.ldapUtils.search (server.ldapUtils.ctx.getD .opened) (server.queryFilter username)

/-- Without a connection, or without a result, the user is not to be let in; with a search that
fails before its first result, the user is; else the last entry found decides rightly. -/
@[mk_iff] structure Served : Prop where
  unopened : server.opens = false → ¬server.Rightly username password
  unanswered : server.opens = true →
    server.answer username = none ∨ server.answer username = some ⟨[], true⟩ →
      server.Rightly username password
  nothing : server.opens = true → server.answer username = some ⟨[], false⟩ →
    ¬server.Rightly username password
  last : server.opens = true → ∀ found e broken,
    server.answer username = some ⟨found ++ [e], broken⟩ →
      (password ∈ e.passwords ↔ server.Rightly username password)

end LdapServer

namespace ActiveDirectoryServer

variable (server : ActiveDirectoryServer) (username password : String)

/-- The user name has one account, and that accepts the password. -/
def Rightly : Prop :=
  ∃ account, (server.activeDirectoryUtils.directory.accounts.filter (·.name = username)) =
    [account] ∧ password ∈ account.passwords

/-- The account whose name is the user name with the domain before it is the one that decides. -/
def Served : Prop :=
  (∃ account ∈ server.activeDirectoryUtils.directory.accounts,
    server.activeDirectoryUtils.directory.domainName ++ "\\" ++ account.name =
      ActiveDirectoryUtils.shortDomain (server.toUpperCase server.activeDirectoryUtils.domain) ++
        "\\" ++ (server.activeDirectoryUtils.domain ++ "\\" ++ username) ∧
    password ∈ account.passwords) ↔ server.Rightly username password

end ActiveDirectoryServer

/-- Each server lets in whom it should, and each realm whom one of its servers lets in. -/
structure Lawful (ldapServers : List LdapServer)
    (activeDirectoryServers : List ActiveDirectoryServer) (username password : String) : Prop where
  ldap : ∀ server ∈ ldapServers,
    accepts (LdapServer.authenticate username password) server = true ↔
      server.Rightly username password
  activeDirectory : ∀ server ∈ activeDirectoryServers,
    accepts (ActiveDirectoryServer.authenticate username password) server = true ↔
      server.Rightly username password
  ldapRealm :
    accepts (LdapAuthenticationRealm.passwordMatches username password) ldapServers = true ↔
      ∃ server ∈ ldapServers, accepts (LdapServer.authenticate username password) server = true
  activeDirectoryRealm :
    accepts (ActiveDirectoryAuthenticationRealm.passwordMatches username password)
        activeDirectoryServers = true ↔
      ∃ server ∈ activeDirectoryServers,
        accepts (ActiveDirectoryServer.authenticate username password) server = true

/-- No server that cannot open its connection stands before the first one that accepts. -/
def Unobstructed (servers : List LdapServer) (username password : String) : Prop :=
  (∃ server ∈ servers, accepts (LdapServer.authenticate username password) server = true) →
    ∀ server ∈ servers.takeWhile
        fun s => !accepts (LdapServer.authenticate username password) s,
      server.opens = true

section Realms

variable {σ : Type} {authenticate : EStateM JavaException σ Bool}

/-- A realm accepts exactly if one of its servers does and none before it throws. -/
theorem accepts_passwordMatches (servers : List σ) :
    accepts (passwordMatches authenticate) servers = true ↔
      (∃ s ∈ servers, accepts authenticate s = true) ∧
        ∀ s ∈ servers.takeWhile fun s => !accepts authenticate s,
          ∃ b t, authenticate s = .ok b t := by
  induction servers with
  | nil => simp [accepts, passwordMatches]
  | cons server servers ih =>
    cases hserver : authenticate server with
    | error e t =>
      have hnot : accepts authenticate server = false := by simp only [accepts, hserver]
      have hrealm : accepts (passwordMatches authenticate) (server :: servers) = false := by
        simp only [accepts, passwordMatches, hserver]
      simp [hrealm, hnot, hserver]
    | ok b t =>
      cases b with
      | true =>
        have haccepts : accepts authenticate server = true := by simp only [accepts, hserver]
        have hrealm : accepts (passwordMatches authenticate) (server :: servers) = true := by
          simp only [accepts, passwordMatches, hserver]
        simp [hrealm, haccepts]
      | false =>
        have hnot : accepts authenticate server = false := by simp only [accepts, hserver]
        have hrealm : accepts (passwordMatches authenticate) (server :: servers) =
            accepts (passwordMatches authenticate) servers := by
          simp only [accepts, passwordMatches, hserver]
          cases passwordMatches authenticate servers with
          | ok _ _ => rfl
          | error _ _ => rfl
        simp [hrealm, ih, hnot, hserver]

end Realms

section Binds

variable {d : Directory} {e : Entry} {password : String}

/-- The bind of an entry is decided by its passwords. -/
theorem bind_dn (he : e ∈ d.entries.rows) (hp : password ≠ "") :
    d.bind e.dn password = true ↔ password ∈ e.passwords := by
  have hbind : d.bind e.dn password = true ↔
      ∃ e' ∈ d.entries.rows, e'.dn = e.dn ∧ password ∈ e'.passwords := by
    simp [Directory.bind, e.dn_ne, hp]
  rw [hbind]
  constructor
  · intro ⟨e', he', hdn, hpassword⟩
    have hsame : e' = e := List.inj_on_of_nodup_map d.entries.nodup_keys he' he hdn
    rw [← hsame]
    exact hpassword
  · intro hpassword
    exact ⟨e, he, rfl, hpassword⟩

/-- The results of a search are entries of the directory. -/
theorem mem_of_search {baseDN filter : String} {searchScope : Int} {results : List Entry}
    {broken : Bool} (h : d.search baseDN searchScope filter = some ⟨results, broken⟩)
    (he : e ∈ results) : e ∈ d.entries.rows := by
  obtain ⟨p, -, hfound⟩ := Option.map_eq_some_iff.mp h
  dsimp only at hfound
  split at hfound
  · injection hfound with hresults _
    rw [← hresults] at he
    exact (List.mem_filter.mp (List.mem_of_mem_take he)).1
  · injection hfound with hresults _
    rw [← hresults] at he
    exact (List.mem_filter.mp he).1

end Binds

section LdapServers

variable {server : LdapServer} {username password : String}

theorem mem_of_answer {results : List Entry} {broken : Bool} {e : Entry}
    (h : server.answer username = some ⟨results, broken⟩) (he : e ∈ results) :
    e ∈ server.ldapUtils.directory.entries.rows := by
  unfold LdapServer.answer LdapUtils.search at h
  split at h
  · cases h
  · exact mem_of_search h he

/-- The server after a request: its connection is closed for good. -/
def LdapServer.used (server : LdapServer) : LdapServer :=
  { server with ldapUtils := { server.ldapUtils with ctx := some .closed } }

/-- Whom the name that the search leaves lets in. -/
def LdapServer.letsIn (server : LdapServer) (username password : String) : Bool :=
  match LdapServer.foundDn (server.answer username) with
  | none => false
  | some dn => server.ldapUtils.directory.bind dn password

theorem authenticate_of_unopened (h : server.opens = false) :
    LdapServer.authenticate username password server = .error nullPointer server := by
  obtain ⟨hctx, hbind⟩ := Bool.or_eq_false_iff.mp h
  rw [Option.isSome_eq_false_iff, Option.isNone_iff_eq_none] at hctx
  have hconnection : server.ldapUtils.getConnection = server.ldapUtils := by
    simp [LdapUtils.getConnection, LdapUtils.openConnection, hbind]
  unfold LdapServer.authenticate
  rw [bind_of_ok (modify_apply _ _), hconnection, bind_of_ok (get_apply _), hctx]
  rfl

/-- The connection that a request gets. -/
theorem getConnection_of_opens (h : server.opens = true) :
    server.ldapUtils.getConnection =
      { server.ldapUtils with ctx := some (server.ldapUtils.ctx.getD .opened) } := by
  cases hctx : server.ldapUtils.ctx with
  | none =>
    have hbind : server.ldapUtils.directory.bind server.ldapUtils.principal
        server.ldapUtils.credentials = true := by simpa [LdapServer.opens, hctx] using h
    simp [LdapUtils.getConnection, LdapUtils.openConnection, hctx, hbind]
  | some ctx =>
    have hsame : server.ldapUtils = { server.ldapUtils with ctx := some ctx } := by rw [← hctx]
    rw [LdapUtils.getConnection, if_neg (by simp [hctx])]
    exact hsame

theorem openConnection_new (d : Directory) (dn password : String) :
    (LdapUtils.openConnection
      { directory := d, principal := dn, credentials := password }).ctx.isSome =
        d.bind dn password := by
  cases h : d.bind dn password with
  | false => simp [LdapUtils.openConnection, h]
  | true => simp [LdapUtils.openConnection, h]

theorem authenticate_of_opens (h : server.opens = true) :
    LdapServer.authenticate username password server =
      .ok (server.letsIn username password) server.used := by
  unfold LdapServer.authenticate LdapServer.letsIn
  rw [bind_of_ok (modify_apply _ _), getConnection_of_opens h, bind_of_ok (get_apply _),
    orThrow_some_bind, bind_of_ok (modify_apply _ _)]
  change (match LdapServer.foundDn (server.answer username) with
    | none => pure false
    | some dn => pure (LdapUtils.openConnection
        { directory := server.ldapUtils.directory, principal := dn
          credentials := password }).ctx.isSome :
      EStateM JavaException LdapServer Bool) server.used = _
  cases LdapServer.foundDn (server.answer username) with
  | none => rfl
  | some dn =>
    simp only [openConnection_new]
    rfl

theorem accepts_authenticate :
    accepts (LdapServer.authenticate username password) server =
      (server.opens && server.letsIn username password) := by
  cases hopens : server.opens with
  | false => simp only [accepts, authenticate_of_unopened hopens, Bool.false_and]
  | true => simp only [accepts, authenticate_of_opens hopens, Bool.true_and]

/-- Whom a search lets in: anyone if it fails before its first result, no one if it finds nothing,
and else whom the last entry does. -/
theorem letsIn_of_unanswered
    (h : server.answer username = none ∨ server.answer username = some ⟨[], true⟩) :
    server.letsIn username password = true := by
  have hdn : LdapServer.foundDn (server.answer username) = some "" := by
    rcases h with hnone | hbroken
    · rw [hnone]
      rfl
    · rw [hbroken]
      rfl
  simp [LdapServer.letsIn, hdn, Directory.bind]

theorem letsIn_of_nothing (h : server.answer username = some ⟨[], false⟩) :
    server.letsIn username password = false := by
  simp [LdapServer.letsIn, h, LdapServer.foundDn]

theorem letsIn_of_last {found : List Entry} {e : Entry} {broken : Bool} (hp : password ≠ "")
    (h : server.answer username = some ⟨found ++ [e], broken⟩) :
    server.letsIn username password = true ↔ password ∈ e.passwords := by
  have hdn : LdapServer.foundDn (server.answer username) = some e.dn := by
    rw [h]
    cases found with
    | nil => rfl
    | cons first found => simp [LdapServer.foundDn]
  have hmem : e ∈ server.ldapUtils.directory.entries.rows :=
    mem_of_answer h (List.mem_append_right _ List.mem_cons_self)
  rw [LdapServer.letsIn, hdn]
  exact bind_dn hmem hp

/-- A server lets in whom it should exactly if it is served so. -/
theorem rightly_iff_served (hp : password ≠ "") :
    (accepts (LdapServer.authenticate username password) server = true ↔
      server.Rightly username password) ↔ server.Served username password := by
  rw [accepts_authenticate, LdapServer.served_iff]
  cases hopens : server.opens with
  | false => simp
  | true =>
    cases hanswer : server.answer username with
    | none =>
      have hlets : server.letsIn username password = true := letsIn_of_unanswered (.inl hanswer)
      simp [hlets]
    | some enumeration =>
      obtain ⟨results, broken⟩ := enumeration
      rcases List.eq_nil_or_concat results with hnil | ⟨found, e, hlast⟩
      · rw [hnil] at hanswer
        cases broken with
        | false =>
          have hlets : server.letsIn username password = false := letsIn_of_nothing hanswer
          simp [hlets, hnil]
        | true =>
          have hlets : server.letsIn username password = true :=
            letsIn_of_unanswered (.inr hanswer)
          simp [hlets, hnil]
      · rw [List.concat_eq_append] at hlast
        rw [hlast] at hanswer
        have hlets := letsIn_of_last hp hanswer
        simp [hlets, hlast]

/-- Asked for a name without special characters, an open connection answers with its entries. -/
theorem answer_of_plain (hattribute : server.filterAttribute.toList ≠ [])
    (hdescription : ∀ c ∈ server.filterAttribute.toList, isDescription c = true)
    (hplain : ∀ c ∈ username.toList, c ∉ special) (hopen : server.ldapUtils.ctx ≠ some .closed)
    (hwhole : server.ldapUtils.directory.interrupted (server.queryFilter username) = none) :
    server.answer username = some ⟨server.named username, false⟩ := by
  have hfilter : (server.queryFilter username).toList =
      '(' :: (server.filterAttribute.toList ++ '=' :: username.toList ++ [')']) := by
    simp [LdapServer.queryFilter]
  have hctx : server.ldapUtils.ctx.getD .opened ≠ .closed := by
    cases hctx : server.ldapUtils.ctx with
    | none => simp
    | some ctx =>
      rw [hctx] at hopen
      exact fun hclosed => hopen (congrArg some hclosed)
  have hunderstood : server.ldapUtils.directory.understood (server.queryFilter username) =
      some fun e => (e.attributes server.filterAttribute).any
        ((server.ldapUtils.directory.rule server.filterAttribute).equal
          (username.toList.flatMap String.utf8EncodeChar)) := by
    rw [Directory.understood, hfilter, parseItem_of_plain hattribute hdescription hplain,
      String.ofList_toList]
    rfl
  rw [LdapServer.answer, LdapUtils.search, if_neg fun h => hctx h.1, Directory.search, hunderstood,
    hwhole]
  rfl

/-- The ordinary case: a name without special characters and with at most one entry, and a search
over an open connection that runs through. -/
theorem served_of_plain (hp : password ≠ "") (hopens : server.opens = true)
    (hanswer : server.answer username = some ⟨server.named username, false⟩)
    (hone : (server.named username).length ≤ 1) : server.Served username password := by
  apply (rightly_iff_served hp).mp
  rw [accepts_authenticate, hopens, Bool.true_and]
  rcases Nat.le_one_iff_eq_zero_or_eq_one.mp hone with hnone | hsingle
  · have hnil : server.named username = [] := List.length_eq_zero_iff.mp hnone
    rw [hnil] at hanswer
    simp [letsIn_of_nothing hanswer, LdapServer.Rightly, hnil]
  · obtain ⟨e, he⟩ := List.length_eq_one_iff.mp hsingle
    have hlast : server.answer username = some ⟨[] ++ [e], false⟩ := by rw [hanswer, he]; rfl
    rw [letsIn_of_last hp hlast]
    simp [LdapServer.Rightly, he]

/-- A request with a user name and a password changes a server. -/
def step (server : LdapServer) (request : String × String) : LdapServer :=
  final (LdapServer.authenticate request.1 request.2) server

/-- Run: once a server has answered, its connection stays closed, and it lets everyone in. -/
theorem everyone_let_in (hclosed : server.ldapUtils.directory.answersClosed = false)
    (hopens : server.opens = true) (first : String × String) (requests : List (String × String))
    (username password : String) :
    accepts (LdapServer.authenticate username password)
      (exec step (step server first) requests) = true := by
  let I (s : LdapServer) : Prop :=
    s.ldapUtils.ctx = some .closed ∧ s.ldapUtils.directory.answersClosed = false
  have hstep : ∀ s request, I s → I (step s request) := by
    intro s request hs
    have hopen : s.opens = true := by simp [LdapServer.opens, hs.1]
    rw [step, final_of_ok (authenticate_of_opens hopen)]
    exact ⟨rfl, hs.2⟩
  have hfirst : I (step server first) := by
    rw [step, final_of_ok (authenticate_of_opens hopens)]
    exact ⟨rfl, hclosed⟩
  have hrun : I (exec step (step server first) requests) := exec_induction hstep hfirst requests
  generalize exec step (step server first) requests = s at hrun
  have hopen : s.opens = true := by simp [LdapServer.opens, hrun.1]
  have hanswer : s.answer username = none := by
    simp [LdapServer.answer, LdapUtils.search, hrun.1, hrun.2]
  rw [accepts_authenticate, hopen, letsIn_of_unanswered (.inl hanswer), Bool.and_self]

theorem returns_iff_opens :
    (∃ b t, LdapServer.authenticate username password server = .ok b t) ↔ server.opens = true := by
  cases hopens : server.opens with
  | false => simp [authenticate_of_unopened hopens]
  | true => simp [authenticate_of_opens hopens]

/-- The realm lets in whom a server lets in exactly if no server before it is in the way. -/
theorem ldapRealm_iff_unobstructed (servers : List LdapServer) :
    (accepts (LdapAuthenticationRealm.passwordMatches username password) servers = true ↔
      ∃ server ∈ servers, accepts (LdapServer.authenticate username password) server = true) ↔
      Unobstructed servers username password := by
  rw [LdapAuthenticationRealm.passwordMatches, accepts_passwordMatches]
  simp only [returns_iff_opens, Unobstructed]
  exact and_iff_left_iff_imp

end LdapServers

section ActiveDirectories

variable {server : ActiveDirectoryServer} {username password : String}

/-- The principal has the domain before it twice. -/
theorem activeDirectory_apply : ActiveDirectoryServer.authenticate username password server =
    .ok (server.activeDirectoryUtils.directory.bind
      (ActiveDirectoryUtils.shortDomain (server.toUpperCase server.activeDirectoryUtils.domain) ++
        "\\" ++ (server.activeDirectoryUtils.domain ++ "\\" ++ username)) password) server := by
  unfold ActiveDirectoryServer.authenticate
  rw [bind_of_ok (get_apply _), pure_apply]
  simp only [ActiveDirectoryUtils.openConnection]
  split_ifs with hbind
  · rw [hbind]
    rfl
  · rw [eq_false_of_ne_true hbind]
    rfl

theorem activeDirectory_rightly_iff_served (hp : password ≠ "") :
    (accepts (ActiveDirectoryServer.authenticate username password) server = true ↔
      server.Rightly username password) ↔ server.Served username password := by
  have hprincipal : ActiveDirectoryUtils.shortDomain
      (server.toUpperCase server.activeDirectoryUtils.domain) ++ "\\" ++
        (server.activeDirectoryUtils.domain ++ "\\" ++ username) ≠ "" := by simp
  simp only [accepts, activeDirectory_apply, ActiveDirectory.bind, ActiveDirectoryServer.Served]
  simp [hp, hprincipal]

/-- Where neither the domain nor an account has a backslash in its name, the doubled domain is the
principal of no account. -/
theorem activeDirectory_served_of_names
    (hdomain : '\\' ∉ server.activeDirectoryUtils.directory.domainName.toList)
    (hnames : ∀ account ∈ server.activeDirectoryUtils.directory.accounts,
      '\\' ∉ account.name.toList) :
    server.Served username password ↔ ¬server.Rightly username password := by
  unfold ActiveDirectoryServer.Served
  apply iff_false_left
  intro ⟨account, haccount, hprincipal, _⟩
  have hcount := congrArg (fun s : String => s.toList.count '\\') hprincipal
  have hname := List.count_eq_zero.mpr (hnames account haccount)
  have hnone := List.count_eq_zero.mpr hdomain
  simp only [String.toList_append, List.count_append, hname, hnone] at hcount
  have hslash : "\\".toList.count '\\' = 1 := by decide
  omega

theorem activeDirectoryRealm_iff (servers : List ActiveDirectoryServer) :
    accepts (ActiveDirectoryAuthenticationRealm.passwordMatches username password) servers = true ↔
      ∃ server ∈ servers,
        accepts (ActiveDirectoryServer.authenticate username password) server = true := by
  rw [ActiveDirectoryAuthenticationRealm.passwordMatches, accepts_passwordMatches]
  exact and_iff_left fun _ _ => ⟨_, _, activeDirectory_apply⟩

end ActiveDirectories

/-- For all directories, servers, user names and passwords, everyone is let in who should be, and no
one else, exactly if the searches and the doubled domains decide rightly and no server that cannot
open its connection is in the way of another. -/
theorem lawful_iff_served (ldapServers : List LdapServer)
    (activeDirectoryServers : List ActiveDirectoryServer) (username password : String)
    (hp : password ≠ "") :
    Lawful ldapServers activeDirectoryServers username password ↔
      (∀ server ∈ ldapServers, server.Served username password) ∧
      (∀ server ∈ activeDirectoryServers, server.Served username password) ∧
      Unobstructed ldapServers username password := by
  constructor
  · intro h
    refine ⟨?_, ?_, (ldapRealm_iff_unobstructed ldapServers).mp h.ldapRealm⟩
    · intro server hserver
      exact (rightly_iff_served hp).mp (h.ldap server hserver)
    · intro server hserver
      exact (activeDirectory_rightly_iff_served hp).mp (h.activeDirectory server hserver)
  · intro ⟨hldap, hactive, hrealm⟩
    refine ⟨?_, ?_, (ldapRealm_iff_unobstructed ldapServers).mpr hrealm,
      activeDirectoryRealm_iff activeDirectoryServers⟩
    · intro server hserver
      exact (rightly_iff_served hp).mpr (hldap server hserver)
    · intro server hserver
      exact (activeDirectory_rightly_iff_served hp).mpr (hactive server hserver)

section Examples

def bob : Entry where
  dn := "uid=bob,dc=connsec,dc=com"
  attributes name := if name = "uid" then ["bob"] else []
  passwords := ["secret"]
  dn_ne := by decide

def root : Entry where
  dn := "cn=root"
  attributes _ := []
  passwords := ["rootroot"]
  dn_ne := by decide

/-- A server whose directory has the one user bob and compares octets. -/
def connsec : LdapServer where
  ldapUtils :=
    { directory :=
        { entries := ⟨[root, bob], by decide⟩
          rule := fun _ => ⟨fun octets value => octets = value.toList.flatMap String.utf8EncodeChar,
            fun _ _ => false⟩ }
      principal := "cn=root", credentials := "rootroot", baseDN := "dc=connsec,dc=com" }
  filterAttribute := "uid"

def activeConnsec : ActiveDirectoryServer where
  activeDirectoryUtils :=
    { directory := ⟨"CONNSEC", [⟨"bob", ["secret"]⟩]⟩
      principal := "cn=root", credentials := "rootroot", domain := "CONNSEC" }
  toUpperCase := id

theorem not_rightly {server : LdapServer} {username password : String}
    (h : (server.named username).any (·.passwords.contains password) = false) :
    ¬server.Rightly username password := by
  intro ⟨e, he, hpassword⟩
  rw [he] at h
  simp [hpassword] at h

/-- An asterisk is let in with the password of bob, bob with any password once the server has been
asked before, and with no password where the domain is doubled. -/
theorem directories_not_lawful :
    ¬Lawful [connsec] [] "*" "secret" ∧ ¬Lawful [connsec.used] [] "bob" "wrong" ∧
      ¬Lawful [] [activeConnsec] "bob" "secret" := by
  refine ⟨?_, ?_, ?_⟩
  · intro h
    have haccepts : accepts (LdapServer.authenticate "*" "secret") connsec = true := by
      decide +kernel
    have hrightly := (h.ldap connsec List.mem_cons_self).mp haccepts
    exact not_rightly (by decide +kernel) hrightly
  · intro h
    have haccepts : accepts (LdapServer.authenticate "bob" "wrong") connsec.used = true := by
      decide +kernel
    have hrightly := (h.ldap connsec.used List.mem_cons_self).mp haccepts
    exact not_rightly (by decide +kernel) hrightly
  · intro h
    have hrightly : activeConnsec.Rightly "bob" "secret" := ⟨⟨"bob", ["secret"]⟩, rfl, by decide⟩
    have haccepts := (h.activeDirectory activeConnsec List.mem_cons_self).mpr hrightly
    exact absurd haccepts (by decide +kernel)

/-- Bob is let in, at the first request, with the password of the entry. -/
theorem lawful_iff_served_test : Lawful [connsec] [] "bob" "secret" := by
  have hdescription : ∀ c ∈ "uid".toList, isDescription c = true :=
    List.all_eq_true.mp (by decide +kernel)
  have hplain : ∀ c ∈ "bob".toList, c ∉ special := List.all_iff_forall_prop.mp (by decide +kernel)
  have hanswer : connsec.answer "bob" = some ⟨connsec.named "bob", false⟩ :=
    answer_of_plain (by decide +kernel) hdescription hplain (by decide) rfl
  have hserved : connsec.Served "bob" "secret" :=
    served_of_plain (by decide) (by decide +kernel) hanswer (by decide +kernel)
  refine (lawful_iff_served [connsec] [] "bob" "secret" (by decide)).mpr ⟨?_, ?_, ?_⟩
  · exact List.forall_mem_singleton.mpr hserved
  · exact fun _ h => absurd h List.not_mem_nil
  · intro _ server hserver
    have hmem := (List.takeWhile_sublist _).subset hserver
    rw [List.mem_singleton.mp hmem]
    decide +kernel

end Examples

end MaxKey.LdapServers
