import MaxKey.Delimited
import MaxKey.JavaUrl
import MaxKey.OAuth2

namespace MaxKey.RedirectResolver
open OAuth2 JavaException Effects

/-- The elements of a path from the last to the first: a ".." takes away the element before it. -/
def pathElements (pathArray : List (List Char)) : List (List Char) × ℕ :=
  pathArray.foldr (fun element (kept, tops) =>
    if element = ['.'] then (kept, tops)
    else if element = ['.', '.'] then (kept, tops + 1)
    else if 0 < tops then (kept, tops - 1)
    else (element :: kept, tops)) ([], 0)

/-- StringUtils.cleanPath -/
def cleanPath (path : List Char) : List Char :=
  let pathToUse := path.map fun c => if c = '\\' then '/' else c
  if '.' ∉ pathToUse then pathToUse
  else
    let scheme := pathToUse.takeWhile (· ≠ ':')
    let stripped := if ':' ∈ pathToUse ∧ '/' ∉ scheme then scheme ++ [':'] else []
    let rest := pathToUse.drop stripped.length
    let root := if rest.head? = some '/' then ['/'] else []
    let pathArray := (rest.drop root.length).splitOn '/'
    let (kept, tops) := pathElements pathArray
    let elements := List.replicate tops ['.', '.'] ++ kept
    let elements := if elements = [[]] ∧ root = [] then ['.'] :: elements else elements
    stripped ++ (root ++ ['/'].intercalate elements)

structure Config where
  handlers : JavaUrl.Handlers
  redirectGrantTypes : List String := ["implicit", "authorization_code"]
  matchSubdomains : Bool := true

variable (c : Config)

def hostMatches (registered requested : String) : Bool :=
  if c.matchSubdomains then registered.toList.isSuffixOf requested.toList
  else registered = requested

/-- What is no URL must be the registered text. -/
def redirectMatches (requestedRedirect redirectUri : String) : Bool :=
  match JavaUrl.new c.handlers requestedRedirect, JavaUrl.new c.handlers redirectUri with
  | some req, some reg =>
    if reg.protocol = req.protocol ∧ hostMatches c reg.host req.host then
      (cleanPath reg.path.toList).isPrefixOf (cleanPath req.path.toList)
    else requestedRedirect = redirectUri
  | _, _ => requestedRedirect = redirectUri

def obtainMatchingRedirect (redirectUris : List String) (requestedRedirect : Option String) :
    Except JavaException String :=
  let mismatch := redirectMismatch ("Invalid redirect: " ++ requestedRedirect.getD "null" ++
    " does not match one of the registered values: [" ++ String.intercalate ", " redirectUris ++ "]")
  match requestedRedirect with
  | some requested =>
    if redirectUris.any (redirectMatches c requested) then .ok requested else .error mismatch
  | none =>
    match redirectUris with
    | [redirectUri] => .ok redirectUri
    | _ => .error mismatch

def resolveRedirect (requestedRedirect : Option String) (client : ClientDetails) :
    Except JavaException String := do
  failIf (client.authorizedGrantTypes = [])
    (invalidGrant "A client must have at least one authorized grant type.")
  failIf (¬ client.authorizedGrantTypes.any (· ∈ c.redirectGrantTypes))
    (invalidGrant "A redirect_uri can only be used by implicit or authorization_code grant types.")
  match client.registeredRedirectUri.getD [] with
  | [] =>
    if JavaText.hasText requestedRedirect then .ok (requestedRedirect.getD "")
    else .error (invalidRequest "A redirect_uri must be supplied.")
  | redirectUris => obtainMatchingRedirect c redirectUris requestedRedirect

/-- The parts between the slashes of a path, once its dot segments are resolved. -/
def segments (url : JavaUrl) : List (List Char) := (cleanPath url.path.toList).splitOn '/'

/-- The requested path has the segments of the registered one, but for what the last of these goes on
with. -/
def Extends (reg req : JavaUrl) : Prop :=
  ∃ init last rest more, segments reg = init ++ [last] ∧ segments req = init ++ (last ++ rest) :: more

/-- The requested redirect is the registered one, or both are URLs of one scheme, and the requested one
goes on from the registered host to the left and from the registered path to the right. -/
def Admitted (redirectUri requestedRedirect : String) : Prop :=
  requestedRedirect = redirectUri ∨ ∃ reg req, JavaUrl.new c.handlers redirectUri = some reg ∧
    JavaUrl.new c.handlers requestedRedirect = some req ∧ req.protocol = reg.protocol ∧
    reg.host.toList <:+ req.host.toList ∧ (c.matchSubdomains = false → req.host = reg.host) ∧
    Extends reg req

variable {c} {client : ClientDetails} {requestedRedirect : Option String} {redirectUri requested uri : String}
  {redirectUris : List String}

theorem hostMatches_iff {registered : String} : hostMatches c registered requested = true ↔
    registered.toList <:+ requested.toList ∧ (c.matchSubdomains = false → requested = registered) := by
  unfold hostMatches
  cases c.matchSubdomains with
  | true => simp [List.isSuffixOf_iff_suffix]
  | false =>
    simp only [Bool.false_eq_true, if_false, decide_eq_true_eq, forall_const]
    constructor
    · intro hsame
      rw [hsame]
      exact ⟨List.suffix_refl _, rfl⟩
    · exact fun h => h.2.symm

theorem admitted_of_matches (h : redirectMatches c requested redirectUri = true) :
    Admitted c redirectUri requested := by
  unfold redirectMatches at h
  cases hreq : JavaUrl.new c.handlers requested with
  | none =>
    rw [hreq] at h
    exact .inl (of_decide_eq_true h)
  | some req =>
    cases hreg : JavaUrl.new c.handlers redirectUri with
    | none =>
      rw [hreq, hreg] at h
      exact .inl (of_decide_eq_true h)
    | some reg =>
      rw [hreq, hreg] at h
      dsimp only at h
      split_ifs at h with hmatch
      · obtain ⟨hprotocol, hhost⟩ := hmatch
        obtain ⟨hsuffix, hequal⟩ := hostMatches_iff.mp hhost
        refine .inr ⟨reg, req, hreg, hreq, hprotocol.symm, hsuffix, hequal, ?_⟩
        apply Delimited.splitOn_of_prefix '/'
        exact List.isPrefixOf_iff_prefix.mp h
      · exact .inl (of_decide_eq_true h)

/-- What the resolver returns is one of the registered redirects when none is asked for, and else the
requested redirect, which one of them admits. -/
theorem obtainMatchingRedirect_admits
    (h : obtainMatchingRedirect c redirectUris requestedRedirect = .ok uri) :
    (requestedRedirect = none ∧ redirectUris = [uri]) ∨
      (requestedRedirect = some uri ∧ ∃ redirectUri ∈ redirectUris, Admitted c redirectUri uri) := by
  unfold obtainMatchingRedirect at h
  cases requestedRedirect with
  | none =>
    left
    match redirectUris with
    | [redirectUri] =>
      rw [← Except.ok.inj h]
      exact ⟨rfl, rfl⟩
    | [] => cases h
    | _ :: _ :: _ => cases h
  | some requested =>
    right
    dsimp only at h
    split_ifs at h with hany
    obtain ⟨redirectUri, hmem, hmatch⟩ := List.any_eq_true.mp hany
    rw [← Except.ok.inj h]
    exact ⟨rfl, redirectUri, hmem, admitted_of_matches hmatch⟩

/-- A client that signs its users in over the web. -/
def webClient : ClientDetails where
  clientId := "app"
  registeredRedirectUri := some ["https://app.example/callback"]

/-- Scheme and port are those registered, the host is the registered one or a subdomain of it, and the
path the registered one or below it. -/
def WithinRegistered (c : Config) (redirectUri requestedRedirect : String) : Prop :=
  requestedRedirect = redirectUri ∨ ∃ reg req, JavaUrl.new c.handlers redirectUri = some reg ∧
    JavaUrl.new c.handlers requestedRedirect = some req ∧ req.protocol = reg.protocol ∧
    req.port = reg.port ∧ (req.host = reg.host ∨ ('.' :: reg.host.toList) <:+ req.host.toList) ∧
    (req.path = reg.path ∨ reg.path.toList ++ ['/'] <+: req.path.toList)

end MaxKey.RedirectResolver
