import MaxKey.JwtHelper

namespace MaxKey.OAuth2
open JavaException Effects Codecs Base64Codec

namespace JwtHelper
open JwtHeaderHelper

/-! ### The segments of a token -/

section Segments

variable {header claims crypto : List Char}

variable (claims crypto) in
theorem firstPeriod_eq (hheader : '.' ∉ header) :
    firstPeriod (header ++ '.' :: (claims ++ '.' :: crypto)) = header.length := by
  unfold firstPeriod
  rw [if_pos (by simp), List.idxOf_append_of_notMem hheader, List.idxOf_cons_self, Nat.add_zero]

variable (header claims) in
theorem lastPeriod_eq (hcrypto : '.' ∉ crypto) :
    lastPeriod (header ++ '.' :: (claims ++ '.' :: crypto)) =
      header.length + claims.length + 1 := by
  have hreverse : (header ++ '.' :: (claims ++ '.' :: crypto)).reverse =
      crypto.reverse ++ '.' :: (header ++ '.' :: claims).reverse := by simp
  have hmem : '.' ∉ crypto.reverse := by
    rw [List.mem_reverse]
    exact hcrypto
  unfold lastPeriod
  rw [if_pos (by simp), hreverse, List.idxOf_append_of_notMem hmem, List.idxOf_cons_self,
    List.length_reverse]
  simp only [List.length_append, List.length_cons]
  omega

variable (claims) in
/-- The index arithmetic finds the three segments again. -/
theorem segments_eq (hheader : '.' ∉ header) (hcrypto : '.' ∉ crypto) :
    let token := header ++ '.' :: (claims ++ '.' :: crypto)
    token.take (firstPeriod token).toNat = header ∧
      (token.take (lastPeriod token).toNat).drop ((firstPeriod token).toNat + 1) = claims ∧
      token.drop ((lastPeriod token).toNat + 1) = crypto := by
  have hfirst : (firstPeriod (header ++ '.' :: (claims ++ '.' :: crypto))).toNat =
      header.length := by
    rw [firstPeriod_eq claims crypto hheader, Int.toNat_natCast]
  have hlast : (lastPeriod (header ++ '.' :: (claims ++ '.' :: crypto))).toNat =
      (header ++ '.' :: claims).length := by
    rw [lastPeriod_eq header claims hcrypto, List.length_append, List.length_cons]
    omega
  have hsplit : header ++ '.' :: (claims ++ '.' :: crypto) =
      (header ++ '.' :: claims) ++ '.' :: crypto := by simp
  dsimp only
  rw [hfirst, hlast]
  refine ⟨List.take_left, ?_, ?_⟩
  · rw [hsplit, List.take_left]
    have hdrop : header ++ '.' :: claims = (header ++ ['.']) ++ claims := by simp
    rw [hdrop, List.drop_left' (by simp)]
  · have hdrop : header ++ '.' :: (claims ++ '.' :: crypto) =
        (header ++ '.' :: claims ++ ['.']) ++ crypto := by simp
    have hlength : (header ++ '.' :: claims ++ ['.']).length =
        (header ++ '.' :: claims).length + 1 := List.length_append
    rw [hdrop, List.drop_left' hlength]

end Segments

/-! ### The header -/

section Header

variable {json : JsonFactory}

/-- A header without an initialisation vector is read as it was written. -/
theorem parseParams_ofFields (params : HeaderParameters) :
    parseParams (.ofFields (fieldsOf params)) =
      if params.iv = none then .ok params
      else .error (illegalArgument "Header fields must be strings") := by
  obtain ⟨alg, enc, iv⟩ := params
  -- behind an iv the loop takes the end of the object, and then finds no text
  cases enc <;> cases iv <;>
    simp [parseParams, JsonStream.ofFields, fieldsOf, parseFields, readField, ended] <;> rfl

/-- The loop takes all fields up to the point at which the parser breaks off: their values are
texts, alg and enc do not come twice, a type is that of a token. Behind the value of an iv it needs
one token more, which it passes over. -/
inductive BreaksOff (failure : Bool) : HeaderFields → List JsonEvent → Prop
  | name {fields} : failure = true → BreaksOff failure fields []
  | value {fields event} : failure = true → event.token ≠ .endObject →
      BreaksOff failure fields [event]
  | skipped {fields event value} : event.token ≠ .endObject → value.token = .valueString →
      event.currentName = some "iv" → fields.iv = none → BreaksOff failure fields [event, value]
  | iv {fields event value next events} : event.token ≠ .endObject →
      value.token = .valueString → event.currentName = some "iv" → fields.iv = none →
      BreaksOff failure { fields with iv := next.token.asString } events →
      BreaksOff failure fields (event :: value :: next :: events)
  | field {fields fields' event value events} : event.token ≠ .endObject →
      value.token = .valueString → event.currentName ≠ some "iv" →
      readField event.currentName value.text fields = .ok fields' →
      BreaksOff failure fields' events → BreaksOff failure fields (event :: value :: events)

/-- The exceptions of a header. -/
def IsIllegalArgument (e : JavaException) : Prop := ∃ message, e = illegalArgument message

theorem readField_error {name : Option String} {value : String} {fields : HeaderFields}
    {e : JavaException} (h : readField name value fields = .error e) : IsIllegalArgument e := by
  unfold readField at h
  split_ifs at h <;> exact ⟨_, (Except.error.inj h).symm⟩

theorem ended_iff (failure : Bool) : IsIllegalArgument (ended failure) ↔ failure = false := by
  cases failure with
  | false => exact iff_of_true ⟨_, rfl⟩ rfl
  | true => exact iff_of_false nofun nofun

/-- Where there is one exception, it is the one of a header or not. -/
theorem forall_error_iff {α : Type} {e : JavaException} :
    (∀ e', (.error e : Except JavaException α) = .error e' → IsIllegalArgument e') ↔
      IsIllegalArgument e := by
  constructor
  · intro h
    exact h e rfl
  · intro h e' he
    rw [← Except.error.inj he]
    exact h

theorem breaksOff_nil {failure : Bool} {fields : HeaderFields} :
    BreaksOff failure fields [] ↔ failure = true := by
  constructor
  · intro h
    cases h with
    | name hfailure => exact hfailure
  · exact .name

theorem breaksOff_last {failure : Bool} {fields : HeaderFields} {event : JsonEvent}
    (hend : event.token ≠ .endObject) : BreaksOff failure fields [event] ↔ failure = true := by
  constructor
  · intro h
    cases h with
    | value hfailure _ => exact hfailure
  · exact fun hfailure => .value hfailure hend

/-- Behind the end of the object nothing breaks off. -/
theorem not_breaksOff_of_end {failure : Bool} {fields : HeaderFields} {event : JsonEvent}
    {events : List JsonEvent} (hend : event.token = .endObject) :
    ¬BreaksOff failure fields (event :: events) := by
  intro h
  cases h with
  | value _ hne | skipped hne | iv hne | field hne => exact hne hend

/-- A value that is no text ends the loop before the break. -/
theorem not_breaksOff_of_value {failure : Bool} {fields : HeaderFields} {event value : JsonEvent}
    {events : List JsonEvent} (hstring : value.token ≠ .valueString) :
    ¬BreaksOff failure fields (event :: value :: events) := by
  intro h
  cases h with
  | skipped _ hvalue | iv _ hvalue | field _ hvalue => exact hstring hvalue

/-- The loop ends in another exception exactly if it gets to the point of the break. -/
theorem parseFields_iff (failure : Bool) (fields : HeaderFields) (events : List JsonEvent) :
    (∀ e, parseFields failure fields events = .error e → IsIllegalArgument e) ↔
      ¬BreaksOff failure fields events := by
  induction fields, events using parseFields.induct with
  | case1 fields => rw [parseFields, forall_error_iff, breaksOff_nil, ended_iff, Bool.not_eq_true]
  | case2 fields event hend =>
    rw [parseFields, if_pos hend]
    exact iff_of_true nofun (not_breaksOff_of_end hend)
  | case3 fields event hend =>
    rw [parseFields, if_neg hend, forall_error_iff, breaksOff_last hend, ended_iff,
      Bool.not_eq_true]
  | case4 fields event value events hend =>
    rw [parseFields.eq_def]
    dsimp only
    rw [if_pos hend]
    exact iff_of_true nofun (not_breaksOff_of_end hend)
  | case5 fields event value events hend hstring =>
    rw [parseFields.eq_def]
    dsimp only
    rw [if_neg hend, if_pos hstring, forall_error_iff]
    exact iff_of_true ⟨_, rfl⟩ (not_breaksOff_of_value hstring)
  | case6 fields event value events hend hstring hname htwice =>
    rw [parseFields.eq_def]
    dsimp only
    rw [if_neg hend, if_neg hstring, if_pos hname, if_pos htwice, forall_error_iff]
    refine iff_of_true ⟨_, rfl⟩ ?_
    intro h
    cases h with
    | skipped _ _ _ hiv | iv _ _ _ hiv => exact htwice hiv
    | field _ _ hother => exact hother hname
  | case7 fields event value hend hstring hname htwice =>
    rw [parseFields, if_neg hend, if_neg hstring, if_pos hname, if_neg htwice, forall_error_iff]
    have hbreak : BreaksOff failure fields [event, value] :=
      .skipped hend (not_not.mp hstring) hname (not_not.mp htwice)
    refine iff_of_false ?_ (not_not.mpr hbreak)
    intro ⟨message, hmessage⟩
    cases failure with
    | false => cases hmessage
    | true => cases hmessage
  | case8 fields event value hend hstring hname htwice next events ih =>
    rw [parseFields, if_neg hend, if_neg hstring, if_pos hname, if_neg htwice]
    refine ih.trans (not_congr ?_)
    constructor
    · exact .iv hend (not_not.mp hstring) hname (not_not.mp htwice)
    · intro h
      cases h with
      | iv _ _ _ _ hrest => exact hrest
      | field _ _ hother => exact absurd hname hother
  | case9 fields event value events hend hstring hname e he =>
    rw [parseFields.eq_def]
    dsimp only
    rw [if_neg hend, if_neg hstring, if_neg hname, he]
    refine iff_of_true (forall_error_iff.mpr (readField_error he)) ?_
    intro h
    cases h with
    | skipped _ _ hiv | iv _ _ hiv => exact hname hiv
    | field _ _ _ hok => cases he.symm.trans hok
  | case10 fields event value events hend hstring hname fields' hok ih =>
    rw [parseFields.eq_def]
    dsimp only
    rw [if_neg hend, if_neg hstring, if_neg hname, hok]
    refine ih.trans (not_congr ?_)
    constructor
    · exact .field hend (not_not.mp hstring) hname hok
    · intro h
      cases h with
      | skipped _ _ hiv | iv _ _ hiv => exact absurd hiv hname
      | field _ _ _ hok' hrest => rwa [Except.ok.inj (hok.symm.trans hok')]

/-- No header gives another exception, unless its document breaks off where the loop reads on. -/
theorem parseParams_error_iff (stream : JsonStream) :
    (∀ e, parseParams stream = .error e → IsIllegalArgument e) ↔
      ¬BreaksOff stream.failure {} stream.events.tail := by
  rw [← parseFields_iff]
  unfold parseParams
  constructor
  · intro h e he
    apply h
    rw [he]
    rfl
  · intro h e he
    rcases except_bind_eq_error.mp he with hfields | ⟨fields, -, hnew⟩
    · exact h e hfields
    · unfold newHeaderParameters at hnew
      split at hnew
      · exact ⟨_, (Except.error.inj hnew).symm⟩
      · cases hnew

end Header

/-! ### The token -/

section Token

variable {json : JsonFactory} {signer : Signer} {verifier : SignatureVerifier} {content : String}

theorem Safe.period_not_mem {bytes : List UInt8} (h : ∀ b ∈ bytes, Safe b) :
    '.' ∉ (asciiText bytes).toList := by
  unfold asciiText
  rw [String.toList_ofList, List.mem_map]
  rintro ⟨b, hb, hperiod⟩
  have hchar : ∀ n < 128, Char.ofNat n = '.' → n = 46 := by decide +kernel
  have hnat := hchar b.toNat (h b hb).ascii hperiod
  exact (h b hb).ne_period (UInt8.toNat_inj.mp hnat)

/-- The characters of three segments of safe bytes. -/
theorem toList_asciiText (header claims crypto : List UInt8) :
    (asciiText (header ++ Jwt.period :: claims ++ Jwt.period :: crypto)).toList =
      (asciiText header).toList ++ '.' ::
        ((asciiText claims).toList ++ '.' :: (asciiText crypto).toList) := by
  unfold asciiText
  simp only [String.toList_ofList, List.map_append, List.map_cons, List.append_assoc,
    List.cons_append]
  rfl

theorem length_asciiText_pos {bytes : List UInt8} (h : bytes ≠ []) :
    0 < (asciiText bytes).toList.length := by
  unfold asciiText
  rw [String.toList_ofList, List.length_map]
  exact List.length_pos_iff.mpr h

theorem ascii_joined {header claims crypto : List UInt8} (hheader : ∀ b ∈ header, Safe b)
    (hclaims : ∀ b ∈ claims, Safe b) (hcrypto : ∀ b ∈ crypto, Safe b) :
    ∀ b ∈ header ++ Jwt.period :: claims ++ Jwt.period :: crypto, b.toNat < 128 := by
  simp only [List.mem_append, List.mem_cons]
  rintro b ((hb | rfl | hb) | rfl | hb)
  · exact (hheader b hb).ascii
  · decide
  · exact (hclaims b hb).ascii
  · decide
  · exact (hcrypto b hb).ascii

/-- A text of three safe segments, of which the outer ones are not empty, is taken apart at its two
periods. -/
theorem decode_asciiText {header claims crypto : List UInt8} (hheader : ∀ b ∈ header, Safe b)
    (hclaims : ∀ b ∈ claims, Safe b) (hcrypto : ∀ b ∈ crypto, Safe b) (hfirst : header ≠ [])
    (hlast : crypto ≠ []) :
    decode json (asciiText (header ++ Jwt.period :: claims ++ Jwt.period :: crypto)) =
      create json (asciiText header) >>= fun read =>
        urlDecode claims >>= fun content => urlDecode crypto >>= fun signature =>
          Jwt.new read content signature := by
  have hheaderdot := Safe.period_not_mem hheader
  have hcryptodot := Safe.period_not_mem hcrypto
  obtain ⟨hbefore, hbetween, hbehind⟩ := segments_eq (asciiText claims).toList hheaderdot hcryptodot
  have hheaderlen := length_asciiText_pos hfirst
  have hcryptolen := length_asciiText_pos hlast
  have hfirstperiod := firstPeriod_eq (asciiText claims).toList (asciiText crypto).toList hheaderdot
  have hlastperiod := lastPeriod_eq (asciiText header).toList (asciiText claims).toList hcryptodot
  have hlength : ((asciiText header).toList ++ '.' ::
      ((asciiText claims).toList ++ '.' :: (asciiText crypto).toList)).length =
        (asciiText header).toList.length + (asciiText claims).toList.length +
          (asciiText crypto).toList.length + 2 := by
    simp only [List.length_append, List.length_cons]
    omega
  unfold decode
  rw [toList_asciiText]
  dsimp only
  rw [hbefore, hbetween, hbehind, hfirstperiod, hlastperiod, hlength]
  simp only [String.ofList_toList]
  rw [utf8Encode_asciiText fun b hb => (hclaims b hb).ascii,
    utf8Encode_asciiText fun b hb => (hcrypto b hb).ascii]
  -- neither check of the periods fails
  unfold failIf
  rw [if_neg (by omega)]
  cases create json (asciiText header) with
  | error e => rfl
  | ok read =>
    cases urlDecode claims with
    | error e => rfl
    | ok content =>
      dsimp only [bind, Except.bind]
      rw [if_neg (by omega)]

/-- A token of three segments that are not empty is read as it was written. -/
theorem decode_getEncoded (jwt : Jwt) {text : String} (hheader : jwt.header.bytes ≠ [])
    (hcontent : jwt.content ≠ []) (hcrypto : jwt.crypto ≠ [])
    (hparse : parseParams (json.parse jwt.header.bytes) = .ok jwt.header.parameters)
    (htext : utf8Decode jwt.content = .ok text) :
    ∃ token, jwt.getEncoded = .ok token ∧ decode json token = .ok jwt := by
  obtain ⟨header, hheader, hheaderne, hheadersafe, hheaderback⟩ := urlEncode_eq hheader
  obtain ⟨claims, hclaims, -, hclaimssafe, hclaimsback⟩ := urlEncode_eq hcontent
  obtain ⟨crypto, hcrypto, hcryptone, hcryptosafe, hcryptoback⟩ := urlEncode_eq hcrypto
  have hback := utf8Decode_utf8Encode
    (asciiText (header ++ Jwt.period :: claims ++ Jwt.period :: crypto))
  rw [utf8Encode_asciiText (ascii_joined hheadersafe hclaimssafe hcryptosafe)] at hback
  refine ⟨asciiText (header ++ Jwt.period :: claims ++ Jwt.period :: crypto), ?_, ?_⟩
  · unfold Jwt.getEncoded Jwt.bytes Jwt.signingInput
    rw [hheader, hclaims, hcrypto]
    exact hback
  · have hcreate : create json (asciiText header) = .ok jwt.header := by
      unfold create
      rw [utf8Encode_asciiText fun b hb => (hheadersafe b hb).ascii, hheaderback]
      dsimp only [bind, Except.bind]
      rw [hparse]
      rfl
    have hnew : Jwt.new jwt.header jwt.content jwt.crypto = .ok jwt := by
      unfold Jwt.new
      rw [htext]
      rfl
    rw [decode_asciiText hheadersafe hclaimssafe hcryptosafe hheaderne hcryptone, hcreate,
      hclaimsback, hcryptoback]
    exact hnew

theorem utf8Encode_eq_nil : utf8Encode content = [] ↔ content = "" := by
  unfold utf8Encode
  constructor
  · intro hnil
    apply String.toList_injective
    rw [String.toList_empty]
    apply List.eq_nil_iff_forall_not_mem.mpr
    intro c hc
    exact String.utf8EncodeChar_ne_nil (List.flatMap_eq_nil_iff.mp hnil c hc)
  · rintro rfl
    rfl

/-- What is signed exists for segments that are not empty, and only for these. -/
theorem signingInput_eq_ok {header claims : List UInt8} :
    (∃ input, Jwt.signingInput header claims = .ok input) ↔ header ≠ [] ∧ claims ≠ [] := by
  unfold Jwt.signingInput
  constructor
  · rintro ⟨input, hinput⟩
    obtain ⟨header', hheader, hinput⟩ := except_bind_eq_ok.mp hinput
    obtain ⟨claims', hclaims, -⟩ := except_bind_eq_ok.mp hinput
    refine ⟨?_, ?_⟩
    · rintro rfl
      cases hheader
    · rintro rfl
      cases hclaims
  · rintro ⟨hheader, hclaims⟩
    obtain ⟨header', hheader, -⟩ := urlEncode_eq hheader
    obtain ⟨claims', hclaims, -⟩ := urlEncode_eq hclaims
    rw [hheader, hclaims]
    exact ⟨_, rfl⟩

/-- The token of a content comes back with the same claims. -/
def RoundTrip (json : JsonFactory) (signer : Signer) (verifier : SignatureVerifier)
    (content : String) : Prop :=
  ∃ jwt token jwt', encode json content signer = .ok jwt ∧ jwt.getEncoded = .ok token ∧
    decodeAndVerify json token verifier = .ok jwt' ∧ jwt'.getClaims = .ok content

/-- The signer has an algorithm of the registry and signs the content, with a signature that is not
empty. -/
def Signs (json : JsonFactory) (signer : Signer) (content : String) : Prop :=
  ∃ alg, sigAlg signer.algorithm = .ok alg ∧
    ∀ input, Jwt.signingInput (serializeParams json { alg := alg }) (utf8Encode content) =
      .ok input → ∃ crypto, signer.sign input = .ok crypto ∧ crypto ≠ []

theorem encode_eq_ok {jwt : Jwt} : encode json content signer = .ok jwt ↔
    ∃ alg input crypto, sigAlg signer.algorithm = .ok alg ∧
      Jwt.signingInput (serializeParams json { alg := alg }) (utf8Encode content) = .ok input ∧
      signer.sign input = .ok crypto ∧ jwt = {
        header := { bytes := serializeParams json { alg := alg }, parameters := { alg := alg } }
        content := utf8Encode content, crypto := crypto } := by
  have hnew : ∀ header crypto, Jwt.new header (utf8Encode content) crypto =
      .ok { header := header, content := utf8Encode content, crypto := crypto } := by
    intro header crypto
    unfold Jwt.new
    rw [utf8Decode_utf8Encode]
    rfl
  unfold encode createFor
  simp only [except_bind_eq_ok, hnew]
  constructor
  · rintro ⟨_, ⟨alg, halg, hheader⟩, input, hinput, crypto, hsign, hjwt⟩
    rw [← Except.ok.inj hheader] at hinput hjwt
    exact ⟨alg, input, crypto, halg, hinput, hsign, (Except.ok.inj hjwt).symm⟩
  · rintro ⟨alg, input, crypto, halg, hinput, hsign, rfl⟩
    exact ⟨_, ⟨alg, halg, rfl⟩, input, hinput, crypto, hsign, rfl⟩

theorem decodeAndVerify_eq {jwt : Jwt} {token : String} {input : List UInt8}
    (hdecode : decode json token = .ok jwt)
    (hinput : Jwt.signingInput jwt.header.bytes jwt.content = .ok input)
    (hverify : verifier input jwt.crypto = .ok ()) :
    decodeAndVerify json token verifier = .ok jwt := by
  unfold decodeAndVerify Jwt.verifySignature
  rw [hdecode]
  dsimp only [bind, Except.bind]
  rw [hinput]
  dsimp only
  rw [hverify]
  rfl

/-- The token of a content comes back exactly if the content is not empty, and is signed. -/
theorem roundTrip_content_iff
    (hjson : ∀ alg, sigAlg signer.algorithm = .ok alg → json.Reads (fieldsOf { alg := alg }))
    (hverify : ∀ input crypto, verifier input crypto = .ok () ↔ signer.sign input = .ok crypto) :
    RoundTrip json signer verifier content ↔ content ≠ "" ∧ Signs json signer content := by
  constructor
  · rintro ⟨jwt, token, jwt', hencode, hencoded, -, -⟩
    obtain ⟨alg, input, crypto, halg, hinput, hsign, rfl⟩ := encode_eq_ok.mp hencode
    have hcontent : content ≠ "" := by
      intro hempty
      exact (signingInput_eq_ok.mp ⟨input, hinput⟩).2 (utf8Encode_eq_nil.mpr hempty)
    refine ⟨hcontent, alg, halg, ?_⟩
    intro input' hinput'
    rw [← Except.ok.inj (hinput.symm.trans hinput')]
    refine ⟨crypto, hsign, ?_⟩
    rintro rfl
    unfold Jwt.getEncoded Jwt.bytes at hencoded
    obtain ⟨bytes, hbytes, -⟩ := except_bind_eq_ok.mp hencoded
    obtain ⟨_, -, hbytes⟩ := except_bind_eq_ok.mp hbytes
    obtain ⟨_, hempty, -⟩ := except_bind_eq_ok.mp hbytes
    cases hempty
  · rintro ⟨hcontent, alg, halg, hsigns⟩
    have hreads := hjson alg halg
    have hclaims : utf8Encode content ≠ [] := fun hnil => hcontent (utf8Encode_eq_nil.mp hnil)
    obtain ⟨input, hinput⟩ := signingInput_eq_ok.mpr ⟨hreads.ne_nil, hclaims⟩
    obtain ⟨crypto, hsign, hcrypto⟩ := hsigns input hinput
    have hencode := encode_eq_ok.mpr ⟨alg, input, crypto, halg, hinput, hsign, rfl⟩
    have hparse : parseParams (json.parse (serializeParams json { alg := alg })) =
        .ok { alg := alg } := by
      have hback := parseParams_ofFields { alg := alg }
      rw [if_pos rfl] at hback
      unfold serializeParams
      rw [hreads.parse, hback]
    obtain ⟨token, htoken, hdecode⟩ := decode_getEncoded {
      header := { bytes := serializeParams json { alg := alg }, parameters := { alg := alg } }
      content := utf8Encode content, crypto := crypto } hreads.ne_nil hclaims hcrypto hparse
      (utf8Decode_utf8Encode content)
    have hverified := decodeAndVerify_eq hdecode hinput ((hverify input crypto).mpr hsign)
    exact ⟨_, token, _, hencode, htoken, hverified, utf8Decode_utf8Encode content⟩

/-- Three things about tokens of this form. A content comes back exactly if it is not empty and is
signed. Header parameters come back exactly if there is no initialisation vector. A header gives no
other exception exactly if its document does not break off where the fields are still read. -/
theorem tokens_iff (params : HeaderParameters) (header : List UInt8)
    (hjson : ∀ alg, sigAlg signer.algorithm = .ok alg → json.Reads (fieldsOf { alg := alg }))
    (hparams : json.Reads (fieldsOf params))
    (hverify : ∀ input crypto, verifier input crypto = .ok () ↔ signer.sign input = .ok crypto) :
    (RoundTrip json signer verifier content ↔ content ≠ "" ∧ Signs json signer content) ∧
      (parseParams (json.parse (serializeParams json params)) = .ok params ↔ params.iv = none) ∧
      ((∀ e, parseParams (json.parse header) = .error e → IsIllegalArgument e) ↔
        ¬BreaksOff (json.parse header).failure {} (json.parse header).events.tail) := by
  refine ⟨roundTrip_content_iff hjson hverify, ?_, parseParams_error_iff (json.parse header)⟩
  unfold serializeParams
  rw [hparams.parse, parseParams_ofFields]
  split_ifs with hiv
  · exact iff_of_true rfl hiv
  · exact iff_of_false nofun hiv

end Token

/-- A factory that knows two documents, that of a signer and that of an encrypted token. -/
def twoDocuments : JsonFactory where
  generate fields := utf8Encode ("\x7b" ++ String.intercalate "," (fields.map fun field =>
    "\"" ++ field.1 ++ "\":\"" ++ field.2 ++ "\"") ++ "\x7d")
  parse bytes :=
    if bytes = utf8Encode "\x7b\"alg\":\"HS256\"\x7d" then .ofFields [("alg", "HS256")]
    else if bytes = utf8Encode "\x7b\"alg\":\"RSA1_5\",\"iv\":\"AxY8DCtD\"\x7d" then
      .ofFields [("alg", "RSA1_5"), ("iv", "AxY8DCtD")]
    else { events := [], failure := true }

theorem twoDocuments_reads : twoDocuments.Reads (fieldsOf { alg := "HS256" }) where
  ne_nil := by decide +kernel
  parse := by decide +kernel

theorem twoDocuments_reads_iv :
    twoDocuments.Reads (fieldsOf { alg := "RSA1_5", iv := some "AxY8DCtD" }) where
  ne_nil := by decide +kernel
  parse := by decide +kernel

/-- A signer whose signature is the end of what is signed. -/
def tailSigner : Signer where
  algorithm := "HMACSHA256"
  sign input := .ok (input.drop (input.length - 4))

def tailVerifier : SignatureVerifier := fun input crypto =>
  if tailSigner.sign input = .ok crypto then .ok ()
  else .error (runtime "Calculated signature did not match actual value")

theorem tailVerifier_iff (input crypto : List UInt8) :
    tailVerifier input crypto = .ok () ↔ tailSigner.sign input = .ok crypto := by
  unfold tailVerifier
  split_ifs with hsame
  · exact iff_of_true rfl hsame
  · exact iff_of_false nofun hsame

theorem tailSigner_reads (alg : String) (h : sigAlg tailSigner.algorithm = .ok alg) :
    twoDocuments.Reads (fieldsOf { alg := alg }) := by
  rw [← Except.ok.inj h]
  exact twoDocuments_reads

theorem tokens_iff_kiosk :
    (RoundTrip twoDocuments tailSigner tailVerifier "kiosk" ↔
        "kiosk" ≠ "" ∧ Signs twoDocuments tailSigner "kiosk") ∧
      (parseParams (twoDocuments.parse (serializeParams twoDocuments { alg := "HS256" })) =
        .ok { alg := "HS256" } ↔ ({ alg := "HS256" } : HeaderParameters).iv = none) ∧
      ((∀ e, parseParams (twoDocuments.parse [0x7b]) = .error e → IsIllegalArgument e) ↔
        ¬BreaksOff (twoDocuments.parse [0x7b]).failure {}
          (twoDocuments.parse [0x7b]).events.tail) :=
  tokens_iff { alg := "HS256" } [0x7b] tailSigner_reads twoDocuments_reads tailVerifier_iff

/-- Empty claims are not encoded, a vector is not read again, and a document that breaks off gives
another exception. -/
theorem tokens_fail :
    (¬ ∀ content, RoundTrip twoDocuments tailSigner tailVerifier content) ∧
      (¬ ∀ params, twoDocuments.Reads (fieldsOf params) →
        parseParams (twoDocuments.parse (serializeParams twoDocuments params)) = .ok params) ∧
      ¬ ∀ header e, parseParams (twoDocuments.parse header) = .error e → IsIllegalArgument e := by
  refine ⟨?_, ?_, ?_⟩
  · intro hround
    obtain ⟨jwt, token, jwt', hencode, -⟩ := hround ""
    obtain ⟨alg, input, crypto, -, hinput, -⟩ := encode_eq_ok.mp hencode
    exact (signingInput_eq_ok.mp ⟨input, hinput⟩).2 (utf8Encode_eq_nil.mpr rfl)
  · intro hparams
    have hiv := hparams { alg := "RSA1_5", iv := some "AxY8DCtD" } twoDocuments_reads_iv
    unfold serializeParams at hiv
    rw [twoDocuments_reads_iv.parse, parseParams_ofFields, if_neg (by decide)] at hiv
    cases hiv
  · intro hheader
    obtain ⟨message, hmessage⟩ := hheader [0x7b] _ rfl
    cases hmessage

end JwtHelper

end MaxKey.OAuth2
