import MaxKey.RefreshFailures

namespace MaxKey.OAuth2.TokenExpiries
open JavaException Effects InMemoryTokenStore
open Function (update)

inductive Call
  | store (token : OAuth2AccessToken) (authentication : OAuth2Authentication) (now : ℕ)
  | remove (tokenValue : String)
  | get (authentication : OAuth2Authentication) (now : ℕ)

variable (digest : String → String)

/-- A call leaves its traces whether or not it throws. -/
def step (s : InMemoryTokenStore) : Call → InMemoryTokenStore
  | .store token authentication now => final (storeAccessToken digest now token authentication) s
  | .remove tokenValue => final (removeAccessToken digest tokenValue) s
  | .get authentication now => final (getAccessToken digest now authentication) s

/-- The token that a call stores: a lookup stores the one that it finds under a key other than that
of its authentication. -/
def stores (s : InMemoryTokenStore) : Call → Option (OAuth2AccessToken × OAuth2Authentication × ℕ)
  | .store token authentication now => some (token, authentication, now)
  | .remove _ => none
  | .get authentication now => do
    let token ← s.authenticationToAccessTokenStore (extractKey digest authentication)
    let stored ← s.authenticationStore token.value
    if extractKey digest authentication ≠ extractKey digest stored then
      some (token, authentication, now)
    else none

/-- Of the tokens in the store, which are those last stored under their values, the flush of a call
takes only such as had an expiration that has passed. -/
def FlushesExpired (s : InMemoryTokenStore) (c : Call) : Prop :=
  ∀ token authentication now, stores digest s c = some (token, authentication, now) →
    ∀ v t, s.accessTokenStore v = some t →
      (final (countInsert digest now) s).accessTokenStore v = none → ∃ e ∈ t.expiration, e ≤ now

def FlushDue (s : InMemoryTokenStore) : Prop := s.flushInterval ≤ s.flushCounter + 1

/-- A token that is stored without an expiration, or for an authentication without a client, finds no
entry of its value in the queue, unless it is of the same time or is flushed before. -/
def Renews (s : InMemoryTokenStore) (c : Call) : Prop :=
  ∀ token authentication now, stores digest s c = some (token, authentication, now) →
    token.expiration = none ∨ authentication.oAuth2Request.clientId = none →
    ∀ e ∈ s.expiryQueue, e.value = token.value →
      token.expiration = some e.expiry ∨ FlushDue s ∧ e.expiry ≤ now

/-- The queue is in order of time, has at most the entry of the map for each value, and that is of the
time that the token under the value expires. -/
structure Timed (s : InMemoryTokenStore) : Prop where
  sorted : s.expiryQueue.Pairwise fun e f => e.expiry ≤ f.expiry
  nodup : s.expiryQueue.Nodup
  mapped : ∀ e ∈ s.expiryQueue, s.expiryMap e.value = some e
  current : ∀ e ∈ s.expiryQueue, ∀ t, s.accessTokenStore e.value = some t →
    t.expiration = some e.expiry

/-- What a flush leaves behind. -/
structure Swept (now : ℕ) (s t : InMemoryTokenStore) : Prop where
  timed : Timed t
  queue : ∀ e ∈ t.expiryQueue, e ∈ s.expiryQueue
  token : ∀ v, t.accessTokenStore v = s.accessTokenStore v ∨
    t.accessTokenStore v = none ∧ ∃ e ∈ s.expiryQueue, e.value = v ∧ e.expiry ≤ now

variable {digest} {s t u : InMemoryTokenStore} {now : ℕ} {token : OAuth2AccessToken}
  {a : OAuth2Authentication} {v : String}

theorem timed_empty (flushInterval : ℤ) : Timed { flushInterval := flushInterval } where
  sorted := List.Pairwise.nil
  nodup := List.nodup_nil
  mapped _ he := by cases he
  current _ he := by cases he

/-! ### The flush -/

/-- The store may forget tokens and, from the front on, entries. -/
theorem Timed.fewer (h : Timed s) (hqueue : t.expiryQueue.Sublist s.expiryQueue)
    (hmap : t.expiryMap = s.expiryMap)
    (htoken : ∀ v, t.accessTokenStore v = s.accessTokenStore v ∨ t.accessTokenStore v = none) :
    Timed t where
  sorted := h.sorted.sublist hqueue
  nodup := h.nodup.sublist hqueue
  mapped e he := by
    rw [hmap]
    exact h.mapped e (hqueue.subset he)
  current e he x hx := by
    rcases htoken e.value with hsame | hnone
    · rw [hsame] at hx
      exact h.current e (hqueue.subset he) x hx
    · rw [hnone] at hx
      cases hx

variable (digest) in
theorem leaves_expiries_removeAccessToken (v : String) :
    Leaves (fun s : InMemoryTokenStore => (s.expiryQueue, s.expiryMap))
      (removeAccessToken digest v) := by
  refine leaves_bind leaves_get fun s => leaves_bind (leaves_modify fun _ => rfl) fun _ => ?_
  split
  · exact leaves_pure ()
  · refine leaves_bind (leaves_modify fun _ => rfl) fun _ => ?_
    exact leaves_bind (leaves_orThrow _ _) fun _ => leaves_modify fun _ => rfl

theorem removed_token (v w : String) (s : InMemoryTokenStore) :
    (final (removeAccessToken digest v) s).accessTokenStore w =
      if w = v then none else s.accessTokenStore w := by
  obtain ⟨t, hloses, -, hrun⟩ := DefaultTokenServices.removeAccessToken_run digest v s
  have hfinal : final (removeAccessToken digest v) s = t := by
    by_cases hclient : DefaultTokenServices.Clientless s v
    · exact final_of_error (hrun.trans (if_pos hclient))
    · exact final_of_ok (hrun.trans (if_neg hclient))
  rw [hfinal, hloses.token]
  simp only [List.mem_singleton]

theorem timed_remove (h : Timed s) (v : String) : Timed (final (removeAccessToken digest v) s) := by
  have hsame := leaves_expiries_removeAccessToken digest v s
  have hqueue : (final (removeAccessToken digest v) s).expiryQueue = s.expiryQueue :=
    congrArg Prod.fst hsame
  apply h.fewer
  · rw [hqueue]
  · exact congrArg Prod.snd hsame
  · intro w
    rw [removed_token]
    split_ifs
    · exact .inr rfl
    · exact .inl rfl

theorem Swept.remove (h : Swept now s t) {e : TokenExpiry} (he : e ∈ s.expiryQueue)
    (hdue : e.expiry ≤ now) : Swept now s (final (removeAccessToken digest e.value) t) where
  timed := timed_remove h.timed e.value
  queue f hf := by
    have hsame := leaves_expiries_removeAccessToken digest e.value t
    rw [(Prod.mk.inj hsame).1] at hf
    exact h.queue f hf
  token w := by
    rw [removed_token]
    split_ifs with hw
    · exact .inr ⟨rfl, e, he, hw.symm, hdue⟩
    · exact h.token w

theorem triple_removed {e : TokenExpiry} {rest : List TokenExpiry} (he : e ∈ s.expiryQueue)
    (hdue : e.expiry ≤ now) :
    Triple (fun t => Swept now s t ∧ t.expiryQueue = rest) (removeAccessToken digest e.value)
      (fun _ t => Swept now s t ∧ t.expiryQueue = rest) (Swept now s) := by
  intro t ⟨hswept, hrest⟩
  have hremoved : Swept now s (final (removeAccessToken digest e.value) t) := hswept.remove he hdue
  have hsame := leaves_expiries_removeAccessToken digest e.value t
  cases hrun : removeAccessToken digest e.value t with
  | ok a u =>
    rw [final_of_ok hrun] at hremoved hsame
    exact ⟨hremoved, (congrArg Prod.fst hsame).trans hrest⟩
  | error x u =>
    rw [final_of_error hrun] at hremoved
    exact hremoved

/-- The induction is on the queue: it is in order, so that the flush stops where nothing more is due. -/
theorem triple_poll (queue : List TokenExpiry) :
    Triple (fun t => Swept now s t ∧ t.expiryQueue = queue) (poll digest now queue)
      (fun _ t => Swept now s t ∧ ∀ e ∈ t.expiryQueue, now < e.expiry) (Swept now s) := by
  induction queue with
  | nil =>
    apply triple_pure
    intro t ⟨hswept, hqueue⟩
    refine ⟨hswept, ?_⟩
    rw [hqueue]
    simp
  | cons first rest ih =>
    apply triple_onlyIf
    · intro hdue t ⟨hswept, hqueue⟩
      have hfirst : first ∈ s.expiryQueue := by
        apply hswept.queue
        rw [hqueue]
        exact List.mem_cons_self
      have hrest : Swept now s { t with expiryQueue := rest } := by
        constructor
        · apply hswept.timed.fewer
          · rw [hqueue]
            exact List.sublist_cons_self first rest
          · rfl
          · exact fun _ => .inl rfl
        · intro e he
          apply hswept.queue
          rw [hqueue]
          exact List.mem_cons_of_mem first he
        · exact hswept.token
      rw [bind_of_ok (modify_apply _ t)]
      exact triple_bind (triple_removed hfirst hdue) (fun _ => ih) _ ⟨hrest, rfl⟩
    · intro hlater t ⟨hswept, hqueue⟩
      refine ⟨hswept, ?_⟩
      have hsorted := hswept.timed.sorted
      rw [hqueue] at hsorted ⊢
      have hfirst := (List.pairwise_cons.mp hsorted).1
      intro e he
      rcases List.mem_cons.mp he with rfl | hrest
      · omega
      · have horder := hfirst e hrest
        omega

theorem swept_start (h : Timed s) : Swept now s s where
  timed := h
  queue _ he := he
  token _ := .inl rfl

theorem Swept.counter (h : Swept now s t) (counter : ℤ) :
    Swept now s { t with flushCounter := counter } where
  timed := h.timed.fewer (List.Sublist.refl _) rfl fun _ => .inl rfl
  queue := h.queue
  token := h.token

theorem triple_countInsert (h : Timed s) :
    Triple (fun t => t = s) (countInsert digest now)
      (fun _ t => Swept now s t ∧ (FlushDue s → ∀ e ∈ t.expiryQueue, now < e.expiry))
      (Swept now s) := by
  rintro t rfl
  unfold countInsert
  rw [bind_of_ok (modify_apply _ t), bind_of_ok (get_apply _)]
  let counted : InMemoryTokenStore := { t with flushCounter := t.flushCounter + 1 }
  have hcounted : Swept now t counted := (swept_start h).counter _
  have hflush : Triple (fun u => u = counted) (onlyIf (counted.flushInterval ≤ counted.flushCounter) (do
      flush digest now
      modify fun s => { s with flushCounter := 0 }))
      (fun _ u => Swept now t u ∧ (FlushDue t → ∀ e ∈ u.expiryQueue, now < e.expiry))
      (Swept now t) := by
    apply triple_onlyIf
    · intro _
      apply triple_bind (M := fun _ u => Swept now t u ∧ ∀ e ∈ u.expiryQueue, now < e.expiry)
      · rintro u rfl
        unfold flush
        rw [bind_of_ok (get_apply counted)]
        exact triple_poll counted.expiryQueue counted ⟨hcounted, rfl⟩
      · intro _
        apply triple_modify
        intro u ⟨hswept, hlater⟩
        exact ⟨hswept.counter 0, fun _ => hlater⟩
    · intro hnot u hu
      subst hu
      exact ⟨hcounted, fun hdue => absurd hdue hnot⟩
  exact hflush counted rfl

variable (digest now) in
theorem swept_countInsert (h : Timed s) : Swept now s (final (countInsert digest now) s) := by
  have hswept : Triple (fun t => t = s) (countInsert digest now) (fun _ => Swept now s) (Swept now s) :=
    triple_mono (triple_countInsert h) (fun _ hs => hs) (fun _ _ ht => ht.1) fun _ ht => ht
  exact final_of_triple hswept rfl

/-- What the flush of a call takes was due by an entry, and the entry tells its time. -/
theorem flushesExpired_of_timed (h : Timed s) (c : Call) : FlushesExpired digest s c := by
  intro token a now _ v t ht hgone
  rcases (swept_countInsert digest now h).token v with hsame | ⟨-, e, he, rfl, hdue⟩
  · rw [hsame, ht] at hgone
    cases hgone
  · exact ⟨e.expiry, h.current e he t ht, hdue⟩

/-! ### The new entry -/

/-- The entries of the value are all of the time that the token expires. -/
def Agrees (token : OAuth2AccessToken) (s : InMemoryTokenStore) : Prop :=
  ∀ e ∈ s.expiryQueue, e.value = token.value → token.expiration = some e.expiry

variable (digest a) in
theorem Timed.put (h : Timed s) (hagrees : Agrees token s) : Timed (putToken digest token a s) where
  sorted := h.sorted
  nodup := h.nodup
  mapped := h.mapped
  current e he x hx := by
    have hupdate : update s.accessTokenStore token.value (some token) e.value = some x := hx
    rw [Function.update_apply] at hupdate
    split_ifs at hupdate with hvalue
    · rw [← Option.some.inj hupdate]
      exact hagrees e he hvalue
    · exact h.current e he x hupdate

theorem mem_erased (h : Timed s) (v : String) {e : TokenExpiry} :
    e ∈ (match s.expiryMap v with
      | none => s.expiryQueue
      | some old => s.expiryQueue.erase old) → e ∈ s.expiryQueue ∧ e.value ≠ v := by
  cases hmap : s.expiryMap v with
  | none =>
    intro he
    refine ⟨he, ?_⟩
    rintro rfl
    have hmapped := h.mapped e he
    rw [hmap] at hmapped
    cases hmapped
  | some old =>
    intro he
    rw [h.nodup.mem_erase_iff] at he
    refine ⟨he.2, ?_⟩
    rintro rfl
    have hmapped := h.mapped e he.2
    rw [hmap] at hmapped
    exact he.1 (Option.some.inj hmapped).symm

theorem erased_sublist (s : InMemoryTokenStore) (v : String) :
    (match s.expiryMap v with
      | none => s.expiryQueue
      | some old => s.expiryQueue.erase old).Sublist s.expiryQueue := by
  cases s.expiryMap v with
  | none => exact List.Sublist.refl _
  | some old => exact List.erase_sublist

/-- The old entry of the value gives way to the new one, and the token is put before. -/
theorem Timed.putExpiry (h : Timed s) {expiration : ℕ} (hexpiration : token.expiration = some expiration)
    (hqueue : t.expiryQueue = s.expiryQueue) (hmap : t.expiryMap = s.expiryMap)
    (htoken : t.accessTokenStore = update s.accessTokenStore token.value (some token)) :
    Timed (putExpiry token t) := by
  let queue := match s.expiryMap token.value with
    | none => s.expiryQueue
    | some old => s.expiryQueue.erase old
  let expiry : TokenExpiry := ⟨token.value, expiration⟩
  have hput : InMemoryTokenStore.putExpiry token t = { t with
      expiryMap := update s.expiryMap token.value (some expiry)
      expiryQueue := queue.orderedInsert (fun x y => x.expiry ≤ y.expiry) expiry } := by
    unfold InMemoryTokenStore.putExpiry
    rw [hexpiration, hqueue, hmap] <;> rfl
  have hmem : ∀ e ∈ queue, e ∈ s.expiryQueue ∧ e.value ≠ token.value := fun e he => mem_erased h _ he
  have hsublist : queue.Sublist s.expiryQueue := erased_sublist s token.value
  rw [hput]
  constructor
  · exact (h.sorted.sublist hsublist).orderedInsert expiry queue
  · have hnew : expiry ∉ queue := fun he => (hmem expiry he).2 rfl
    exact (List.perm_orderedInsert _ expiry queue).nodup_iff.mpr
      (List.nodup_cons.mpr ⟨hnew, h.nodup.sublist hsublist⟩)
  · intro e he
    rcases (List.mem_orderedInsert _).mp he with rfl | hold
    · exact Function.update_self _ _ _
    · exact (Function.update_of_ne (hmem e hold).2 _ _).trans (h.mapped e (hmem e hold).1)
  · intro e he x hx
    have hupdate : update s.accessTokenStore token.value (some token) e.value = some x := by
      rw [← htoken]
      exact hx
    rcases (List.mem_orderedInsert _).mp he with rfl | hold
    · rw [Function.update_self] at hupdate
      rw [← Option.some.inj hupdate]
      exact hexpiration
    · rw [Function.update_of_ne (hmem e hold).2] at hupdate
      exact h.current e (hmem e hold).1 x hupdate

theorem Timed.congr (h : Timed s) (hqueue : t.expiryQueue = s.expiryQueue)
    (hmap : t.expiryMap = s.expiryMap) (htoken : t.accessTokenStore = s.accessTokenStore) : Timed t := by
  apply h.fewer
  · rw [hqueue]
  · exact hmap
  · exact fun _ => .inl (by rw [htoken])

theorem Timed.linkRefreshToken (h : Timed s) (token : OAuth2AccessToken) :
    Timed (linkRefreshToken token s) := by
  unfold InMemoryTokenStore.linkRefreshToken
  cases token.refreshToken with
  | none => exact h
  | some x => exact h.congr rfl rfl rfl

theorem triple_store (h : Timed s)
    (hrenews : token.expiration = none ∨ a.oAuth2Request.clientId = none → ∀ e ∈ s.expiryQueue,
      e.value = token.value → token.expiration = some e.expiry ∨ FlushDue s ∧ e.expiry ≤ now) :
    Triple (fun t => t = s) (storeAccessToken digest now token a) (fun _ => Timed) Timed := by
  let Counted (t : InMemoryTokenStore) : Prop :=
    Swept now s t ∧ (FlushDue s → ∀ e ∈ t.expiryQueue, now < e.expiry)
  have hagrees : token.expiration = none ∨ a.oAuth2Request.clientId = none →
      ∀ t, Counted t → Agrees token t := by
    intro hnone t ⟨hswept, hlater⟩ e he hvalue
    rcases hrenews hnone e (hswept.queue e he) hvalue with hsame | ⟨hdue, hexpired⟩
    · exact hsame
    · -- what is due has been flushed
      have hpending := hlater hdue e he
      omega
  have hcount : Triple (fun t => t = s) (countInsert digest now) (fun _ => Counted) Timed :=
    triple_mono (triple_countInsert h) (fun _ hs => hs) (fun _ _ ht => ht) fun _ ht => ht.timed
  refine triple_bind hcount fun _ => ?_
  intro t ht
  rw [bind_of_ok (modify_apply _ t)]
  cases hclient : a.oAuth2Request.clientId with
  | none =>
    -- the client index throws, and the entry is not renewed
    exact ht.1.timed.put digest a (hagrees (.inr hclient) t ht)
  | some c =>
    have hlinked : Timed (InMemoryTokenStore.linkRefreshToken token (InMemoryTokenStore.putExpiry token
        (indexClient token c (putToken digest token a t)))) := by
      apply Timed.linkRefreshToken
      cases hexpiration : token.expiration with
      | none =>
        have hput := ht.1.timed.put digest a (hagrees (.inl hexpiration) t ht)
        have hkept : InMemoryTokenStore.putExpiry token (indexClient token c (putToken digest token a t)) =
            indexClient token c (putToken digest token a t) := by
          unfold InMemoryTokenStore.putExpiry
          rw [hexpiration]
        rw [hkept]
        exact hput.congr rfl rfl rfl
      | some expiration => exact ht.1.timed.putExpiry hexpiration rfl rfl rfl
    exact hlinked

/-! ### Runs -/

theorem step_get (h : Timed s) (hrenews : Renews digest s (.get a now)) :
    Timed (step digest s (.get a now)) := by
  unfold step getAccessToken
  have hlookup : Triple (fun t => t = s) (getAccessToken digest now a) (fun _ => Timed) Timed := by
    unfold getAccessToken
    apply triple_bind_of_ok (get_apply s)
    dsimp only
    cases hfound : s.authenticationToAccessTokenStore (extractKey digest a) with
    | none => exact triple_pure fun t ht => ht ▸ h
    | some token =>
      dsimp only
      cases hstored : s.authenticationStore token.value with
      | none =>
        apply triple_bind_of_error (e := nullPointer) rfl
        exact h
      | some stored =>
        rw [orThrow_some_bind]
        refine triple_bind (M := fun _ => Timed) ?_ fun _ => triple_pure fun _ ht => ht
        apply triple_onlyIf
        · intro hdiffers
          apply triple_store h
          intro hnone
          have hstores : stores digest s (.get a now) = some (token, a, now) := by
            simp only [stores, hfound, hstored, Option.bind_eq_bind, Option.bind_some]
            exact if_pos hdiffers
          exact hrenews token a now hstores hnone
        · exact fun _ t ht => ht ▸ h
  exact final_of_triple hlookup rfl

theorem timed_step (h : Timed s) (c : Call) (hrenews : Renews digest s c) : Timed (step digest s c) := by
  cases c with
  | store token a now => exact final_of_triple (triple_store h (hrenews token a now rfl)) rfl
  | remove v => exact timed_remove h v
  | get a now => exact step_get h hrenews

/-- In every run, from an empty store with any interval and at any times: if every token that is stored
without an expiration or a client finds no entry of its value, the flushes take none but expired
tokens, and no entry in the queue is ever of another time than the token under its value. -/
theorem flushes_expired (digest : String → String) (flushInterval : ℤ) (calls : List Call)
    (h : Runs.Meets (step digest) (Renews digest) { flushInterval := flushInterval } calls) :
    Runs.Meets (step digest) (FlushesExpired digest) { flushInterval := flushInterval } calls ∧
      Timed (Runs.exec (step digest) { flushInterval := flushInterval } calls) := by
  have hstep : ∀ (s : InMemoryTokenStore) (c : Call), Renews digest s c → Timed s →
      Timed (step digest s c) := fun s c hc hs => timed_step hs c hc
  constructor
  · exact Runs.meets_of_invariant (I := Timed) hstep (fun s c _ hs => flushesExpired_of_timed hs c) h
      (timed_empty flushInterval)
  · exact Runs.exec_invariant hstep h (timed_empty flushInterval)

def alice : OAuth2Authentication := DefaultTokenServices.signedIn "alice" DefaultTokenServices.appRequest

/-- A token that is stored for longer, removed, and stored again without an expiration after its entry
has been flushed. -/
def renewing : List Call :=
  [.store { value := "t", expiration := some 1000 } alice 0,
    .store { value := "t", expiration := some 5000 } alice 10,
    .store { value := "u", expiration := some 9000 } alice 2000,
    .remove "t", .get alice 3000]

theorem flushes_expired_renewing :
    Runs.Meets (step id) (FlushesExpired id) { flushInterval := 1 } renewing ∧
      Timed (Runs.exec (step id) { flushInterval := 1 } renewing) := by
  apply flushes_expired
  have hstore : ∀ (s : InMemoryTokenStore) (value : String) (expiration now : ℕ),
      Renews id s (.store { value := value, expiration := some expiration } alice now) := by
    intro s value expiration now token a now' hstores hnone
    cases hstores
    rcases hnone with hnone | hnone
    · cases hnone
    · cases hnone
  refine ⟨hstore _ "t" 1000 0, hstore _ "t" 5000 10, hstore _ "u" 9000 2000, ?_, ?_, trivial⟩
  · intro token a now hstores
    cases hstores
  · intro token a now hstores
    have hnothing : stores id (Runs.exec (step id) { flushInterval := 1 } (renewing.take 4))
        (.get alice 3000) = none := by decide +kernel
    exact absurd (hstores.symm.trans hnothing) (Option.some_ne_none _)

/-- A token that is stored once more without an expiration goes with its old entry. -/
theorem taken_by_stale_entry : ¬ ∀ (digest : String → String) (flushInterval : ℤ) (calls : List Call),
    Runs.Meets (step digest) (FlushesExpired digest) { flushInterval := flushInterval } calls := by
  intro h
  have hrun := h id 1 [.store { value := "t", expiration := some 1000 } alice 0,
    .store { value := "t" } alice 10, .store { value := "u" } alice 2000]
  obtain ⟨-, -, hflush, -⟩ := hrun
  obtain ⟨e, he, -⟩ := hflush { value := "u" } alice 2000 rfl "t" { value := "t" }
    (by decide +kernel) (by decide +kernel)
  cases he

end MaxKey.OAuth2.TokenExpiries
