import MaxKey.Domain
import MaxKey.Effects
import MaxKey.Gregorian
import MaxKey.JavaText
import MaxKey.ResettingCounter

namespace MaxKey.IdSequence
open Effects Gregorian Runs

/-- The default time zone: what is added to a reading of the clock, less than a day. -/
structure Zone where
  offset : ℕ → ℤ
  offset_gt : ∀ now, -86400000 < offset now
  offset_lt : ∀ now, offset now < 86400000

/-- What a call of `next` finds: the milliseconds of the clock since 1970, the session attribute
config.node.number, and the hardware addresses of the host. -/
structure Call where
  now : ℕ
  nodeNumber : Option String
  hostMacAddress : String

/-- The static fields of the class. -/
structure Statics where
  OLD_DATETIME : String := ""
  STATIC_SEQUENCE : ℕ := 0
  STATIC_NODE_NUMBER : String := "--"

def DEFAULT_NODE_NUMBER : String := "01"

/-- A number with zeros in front, up to the width. -/
def padded (width n : ℕ) : List Char := (Nat.toDigits 10 n).leftpad width '0'

/-- The second that local clocks show, counted from the beginning of the year 1600. -/
def Zone.localSecond (zone : Zone) (now : ℕ) : ℕ :=
  (135140 * 86400000 + now + zone.offset now).toNat / 1000

/-- SimpleDateFormat with the pattern yyyyMMddHHmmss, in the Gregorian calendar. -/
def format (t : DateTime) : List Char :=
  padded 4 t.date.year ++ padded 2 t.date.month ++ padded 2 t.date.day ++ padded 2 t.hour ++
    padded 2 t.minute ++ padded 2 t.second

/-- The text of the date and time. -/
def Zone.text (zone : Zone) (now : ℕ) : String :=
  String.ofList (format (.ofSecond (zone.localSecond now)))

/-- The text is never null. -/
def getCurrentSystemDateTime (zone : Zone) (now : ℕ) : EStateM JavaException Statics String := do
  let s ← get
  onlyIf (zone.text now ≠ s.OLD_DATETIME) <|
    set { s with STATIC_SEQUENCE := 0, OLD_DATETIME := zone.text now }
  return zone.text now

/-- A pair of an address and a node number; it counts when the host has the address. -/
def bindNode (hostIpAddress ipvalue : String) : EStateM JavaException String Unit :=
  match JavaText.split '=' ipvalue with
  | [] => pure ()
  | address :: rest =>
    onlyIf (JavaText.contains hostIpAddress address) <|
      match rest with
      | [] => throw .arrayIndexOutOfBounds -- an address without a number
      | node :: _ => set node

def bindNodes (hostIpAddress : String) : List String → EStateM JavaException String Unit
  | [] => pure ()
  | ipvalue :: ipAddressValues => do
    bindNode hostIpAddress ipvalue
    bindNodes hostIpAddress ipAddressValues

/-- What the configuration says the number is; a length other than two is reported only. -/
def findNodeNumber (c : Call) : EStateM JavaException String Unit :=
  match c.nodeNumber with
  | none => set DEFAULT_NODE_NUMBER
  | some ipAddressConfigValue =>
    if ipAddressConfigValue = "" then set DEFAULT_NODE_NUMBER
    else if JavaText.contains ipAddressConfigValue "," then do
      bindNodes c.hostMacAddress (JavaText.split ',' ipAddressConfigValue)
      let nodeNumber ← get
      onlyIf (nodeNumber = "--") (set DEFAULT_NODE_NUMBER)
    else set ipAddressConfigValue

def getNodeNumber (c : Call) : EStateM JavaException String String := do
  let nodeNumber ← get
  onlyIf (nodeNumber = "--") (findNodeNumber c)
  get

def nextSequence : EStateM JavaException Statics String := do
  modify fun s => { s with STATIC_SEQUENCE := (s.STATIC_SEQUENCE + 1) % 10000 }
  return String.ofList (padded 4 (← get).STATIC_SEQUENCE)

def next (zone : Zone) (c : Call) : EStateM JavaException Statics String := do
  let currentDateTime ← getCurrentSystemDateTime zone c.now
  let nodeNumber ← focus (·.STATIC_NODE_NUMBER) (fun n s => { s with STATIC_NODE_NUMBER := n })
    (getNodeNumber c)
  let sequence ← nextSequence
  return String.ofList (currentDateTime.toList.take 8) ++ nodeNumber ++
    String.ofList (currentDateTime.toList.drop 8) ++ sequence

/-! ### The texts -/

theorem ofDigitChars_padded (width n : ℕ) : Nat.ofDigitChars 10 (padded width n) 0 = n := by
  have hzeros : ∀ k, Nat.ofDigitChars 10 (List.replicate k '0' ++ Nat.toDigits 10 n) 0 =
      Nat.ofDigitChars 10 (Nat.toDigits 10 n) 0 := by
    intro k
    induction k with
    | zero => rfl
    | succ k ih => exact ih
  rw [padded, List.leftpad, hzeros, Nat.ofDigitChars_ten_toDigits]

theorem length_padded (width n : ℕ) :
    (padded width n).length = max width (Nat.toDigits 10 n).length := List.length_leftpad ..

theorem length_padded_of_lt {width n : ℕ} (hwidth : 0 < width) (h : n < 10 ^ width) :
    (padded width n).length = width := by
  have hdigits := (Nat.length_toDigits_le_iff (by decide) hwidth).mpr h
  rw [length_padded]
  omega

/-- What stands before a number of a fixed width can be told from it. -/
theorem append_padded_inj {width m n : ℕ} {x y : List Char} (hwidth : 0 < width)
    (hm : m < 10 ^ width) (hn : n < 10 ^ width) (h : x ++ padded width m = y ++ padded width n) :
    x = y ∧ m = n := by
  have hlength : (padded width m).length = (padded width n).length := by
    rw [length_padded_of_lt hwidth hm, length_padded_of_lt hwidth hn]
  obtain ⟨hxy, hnumber⟩ := List.append_inj' h hlength
  refine ⟨hxy, ?_⟩
  rw [← ofDigitChars_padded width m, hnumber, ofDigitChars_padded]

theorem format_injective : Function.Injective fun n => format (.ofSecond n) := by
  intro m n h
  obtain ⟨hmonth, hday, hhour, hminute, hsecond⟩ := ofSecond_lt m
  obtain ⟨hmonth', hday', hhour', hminute', hsecond'⟩ := ofSecond_lt n
  -- the parts of two digits come off from the right, and the year is left
  obtain ⟨h, hs⟩ := append_padded_inj (by decide) hsecond hsecond' h
  obtain ⟨h, hmi⟩ := append_padded_inj (by decide) hminute hminute' h
  obtain ⟨h, hh⟩ := append_padded_inj (by decide) hhour hhour' h
  obtain ⟨h, hd⟩ := append_padded_inj (by decide) hday hday' h
  obtain ⟨h, hmo⟩ := append_padded_inj (by decide) hmonth hmonth' h
  have hy := congrArg (fun cs => Nat.ofDigitChars 10 cs 0) h
  simp only [ofDigitChars_padded] at hy
  apply ofSecond_injective
  exact DateTime.ext (Date.ext hy hmo hd) hh hmi hs

theorem length_format (n : ℕ) :
    (format (.ofSecond n)).length = (padded 4 (DateTime.ofSecond n).date.year).length + 10 := by
  obtain ⟨hmonth, hday, hhour, hminute, hsecond⟩ := ofSecond_lt n
  have htwo : ∀ {k : ℕ}, k < 100 → (padded 2 k).length = 2 := by
    intro k hk
    exact length_padded_of_lt (by decide) hk
  simp only [format, List.length_append, htwo hmonth, htwo hday, htwo hhour, htwo hminute,
    htwo hsecond]

/-- The text has fourteen characters up to the year 9999. -/
theorem length_format_eq_iff (n : ℕ) :
    (format (.ofSecond n)).length = 14 ↔ (DateTime.ofSecond n).date.year ≤ 9999 := by
  have hyear : (Nat.toDigits 10 (DateTime.ofSecond n).date.year).length ≤ 4 ↔
      (DateTime.ofSecond n).date.year < 10 ^ 4 :=
    Nat.length_toDigits_le_iff (by decide) (by decide)
  rw [length_format, length_padded]
  omega

/-- The serial number for a text, a node number and a number in sequence. -/
def render (text nodeNumber : String) (sequence : ℕ) : String :=
  String.ofList (text.toList.take 8) ++ nodeNumber ++ String.ofList (text.toList.drop 8) ++
    String.ofList (padded 4 sequence)

theorem length_render (text nodeNumber : String) {sequence : ℕ} (h : sequence < 10000) :
    (render text nodeNumber sequence).length = text.length + nodeNumber.length + 4 := by
  have hsequence := length_padded_of_lt (by decide : 0 < 4) h
  simp only [render, String.length_append, String.length_ofList, List.length_take, List.length_drop,
    String.length_toList, hsequence]
  omega

/-- The parts of a serial number can be read from it. -/
theorem render_inj {text text' node node' : String} {k l : ℕ} (htext : 8 ≤ text.length)
    (htext' : 8 ≤ text'.length) (hnode : node.length = node'.length) (hk : k < 10000)
    (hl : l < 10000) (h : render text node k = render text' node' l) :
    text = text' ∧ node = node' ∧ k = l := by
  have hlist := congrArg String.toList h
  simp only [render, String.toList_append, String.toList_ofList] at hlist
  obtain ⟨hbefore, hsequence⟩ := append_padded_inj (by decide : 0 < 4) hk hl hlist
  rw [← String.length_toList] at htext htext'
  rw [← String.length_toList, ← String.length_toList] at hnode
  have hfirst : (text.toList.take 8).length = (text'.toList.take 8).length := by
    simp only [List.length_take]
    omega
  obtain ⟨hbefore, hdrop⟩ := List.append_inj hbefore (by simp only [List.length_append]; omega)
  obtain ⟨htake, hnodes⟩ := List.append_inj hbefore hfirst
  refine ⟨?_, String.toList_inj.mp hnodes, hsequence⟩
  rw [← String.toList_inj, ← List.take_append_drop 8 text.toList, htake, hdrop,
    List.take_append_drop]

/-! ### Runs -/

def step (zone : Zone) (s : Statics) (c : Call) : Statics := final (next zone c) s

/-- The serial number that a call returns. -/
def returned (zone : Zone) (s : Statics) (c : Call) : List String :=
  match next zone c s with
  | .ok id _ => [id]
  | .error _ _ => []

/-- The serial numbers returned in a run that starts when the class is loaded. -/
def ids (zone : Zone) (calls : List Call) : List String :=
  (exec (logged (step zone) (returned zone)) ({}, []) calls).2

/-- In every call of the run the node has this number. -/
def UsesNode (zone : Zone) (node : String) (calls : List Call) : Prop :=
  Meets (step zone) (fun s c => ∃ t, getNodeNumber c s.STATIC_NODE_NUMBER = .ok node t) {} calls

/-- What the serial numbers of a node should keep: they are distinct, have twenty characters, and
differ from those of every node with another number. -/
structure Lawful (zone : Zone) (node : String) (calls : List Call) : Prop where
  distinct : (ids zone calls).Nodup
  twenty : ∀ id ∈ ids zone calls, id.length = 20
  apart : ∀ zone' node' calls', node'.length = 2 → node' ≠ node → UsesNode zone' node' calls' →
    ∀ id ∈ ids zone calls, id ∉ ids zone' calls'

/-- The seconds that the local clock shows at the calls: none comes back after another one, none
has more than ten thousand calls, and the years have four digits. -/
structure Suited (zone : Zone) (calls : List Call) : Prop where
  grouped : ResettingCounter.Grouped (calls.map fun c => zone.localSecond c.now)
  capacity : ∀ second, (calls.map fun c => zone.localSecond c.now).count second ≤ 10000
  four_digits : ∀ c ∈ calls, (DateTime.ofSecond (zone.localSecond c.now)).date.year ≤ 9999

/-- The number in sequence that a call at the text is given. -/
def Statics.sequence (s : Statics) (text : String) : ℕ :=
  ((if s.OLD_DATETIME = text then s.STATIC_SEQUENCE else 0) + 1) % 10000

theorem getCurrentSystemDateTime_eq (zone : Zone) (now : ℕ) (s : Statics) :
    getCurrentSystemDateTime zone now s = .ok (zone.text now)
      { s with
        OLD_DATETIME := zone.text now
        STATIC_SEQUENCE := if s.OLD_DATETIME = zone.text now then s.STATIC_SEQUENCE else 0 } := by
  rw [getCurrentSystemDateTime, bind_of_ok (get_apply s)]
  generalize zone.text now = text
  by_cases hold : s.OLD_DATETIME = text
  · have hkeep : onlyIf (text ≠ s.OLD_DATETIME)
        (set { s with STATIC_SEQUENCE := 0, OLD_DATETIME := text }) s =
          (.ok () s : EStateM.Result JavaException Statics Unit) := by
      rw [onlyIf, if_neg fun h => h hold.symm]
      rfl
    rw [bind_of_ok hkeep, if_pos hold, ← hold]
    rfl
  · have hreset : onlyIf (text ≠ s.OLD_DATETIME)
        (set { s with STATIC_SEQUENCE := 0, OLD_DATETIME := text }) s =
          (.ok () { s with STATIC_SEQUENCE := 0, OLD_DATETIME := text } :
            EStateM.Result JavaException Statics Unit) := by
      rw [onlyIf, if_pos fun h => hold h.symm]
      rfl
    rw [bind_of_ok hreset, if_neg hold]
    rfl

theorem nextSequence_eq (s : Statics) :
    nextSequence s = .ok (String.ofList (padded 4 ((s.STATIC_SEQUENCE + 1) % 10000)))
      { s with STATIC_SEQUENCE := (s.STATIC_SEQUENCE + 1) % 10000 } := rfl

/-- What a call of a node with the given number returns and keeps. -/
theorem next_eq {zone : Zone} {s : Statics} {c : Call} {node t : String}
    (h : getNodeNumber c s.STATIC_NODE_NUMBER = .ok node t) :
    next zone c s = .ok (render (zone.text c.now) node (s.sequence (zone.text c.now)))
      ⟨zone.text c.now, s.sequence (zone.text c.now), t⟩ := by
  rw [next, bind_of_ok (getCurrentSystemDateTime_eq zone c.now s)]
  generalize zone.text c.now = text
  have hnode : focus (·.STATIC_NODE_NUMBER) (fun n s => { s with STATIC_NODE_NUMBER := n })
      (getNodeNumber c) { s with
        OLD_DATETIME := text
        STATIC_SEQUENCE := if s.OLD_DATETIME = text then s.STATIC_SEQUENCE else 0 } =
      .ok node ⟨text, if s.OLD_DATETIME = text then s.STATIC_SEQUENCE else 0, t⟩ := focus_of_ok h
  refine (bind_of_ok hnode).trans ?_
  rw [bind_of_ok (nextSequence_eq _), Statics.sequence, render]
  rfl

/-- The class with its serial numbers so far beside the counter with its stamps. -/
def Related (node : String) (s : Statics × List String)
    (t : ResettingCounter.State String × List (String × ℕ)) : Prop :=
  s.1.OLD_DATETIME = t.1.last.getD "" ∧ s.1.STATIC_SEQUENCE = t.1.counter ∧
    s.2 = t.2.map fun stamp => render stamp.1 node stamp.2

/-- The counter with its stamps, on the text of a call. -/
def countText (zone : Zone) (t : ResettingCounter.State String × List (String × ℕ)) (c : Call) :
    ResettingCounter.State String × List (String × ℕ) :=
  logged (ResettingCounter.State.next 10000) (ResettingCounter.State.stamp 10000) t
    (zone.text c.now)

theorem length_text_ge (zone : Zone) (now : ℕ) : 14 ≤ (zone.text now).length := by
  rw [Zone.text, String.length_ofList, length_format, length_padded]
  omega

theorem related_step (zone : Zone) {node : String} {s : Statics × List String}
    {t : ResettingCounter.State String × List (String × ℕ)} {c : Call}
    (hnode : ∃ n, getNodeNumber c s.1.STATIC_NODE_NUMBER = .ok node n) (h : Related node s t) :
    Related node (logged (step zone) (returned zone) s c) (countText zone t c) := by
  obtain ⟨n, hnode⟩ := hnode
  obtain ⟨hlast, hcounter, hids⟩ := h
  have hlength := length_text_ge zone c.now
  have hnext := @next_eq zone _ _ _ _ hnode
  simp only [logged, step, returned, countText, ResettingCounter.State.stamp, final_of_ok hnext,
    hnext]
  generalize zone.text c.now = text at hlength
  -- the text that the class starts with is not the text of any call
  have hempty : text ≠ "" := by
    rintro rfl
    simp at hlength
  have hsame : s.1.OLD_DATETIME = text ↔ t.1.last = some text := by
    rw [hlast]
    cases t.1.last with
    | none => exact iff_of_false (fun h => hempty h.symm) (Option.some_ne_none text).symm
    | some last => simp
  have hsequence : s.1.sequence text = (t.1.next 10000 text).counter := by
    simp only [Statics.sequence, ResettingCounter.State.next, hsame, hcounter]
  refine ⟨rfl, hsequence, ?_⟩
  rw [hids, hsequence, List.map_append, List.map_singleton]

/-- The serial numbers are the stamps of the texts, with the node number in each. -/
theorem ids_eq {zone : Zone} {node : String} {calls : List Call} (h : UsesNode zone node calls) :
    ids zone calls = (ResettingCounter.stamps 10000 (calls.map fun c => zone.text c.now)).map
      fun stamp => render stamp.1 node stamp.2 := by
  have hmeets := (meets_logged (returned zone) ({}, []) calls).mpr h
  have hstart : Related node ({}, []) (.start, []) := ⟨rfl, rfl, rfl⟩
  have hstep : ∀ s t (c : Call), (∃ n, getNodeNumber c s.1.STATIC_NODE_NUMBER = .ok node n) →
      Related node s t → Related node (logged (step zone) (returned zone) s c) (countText zone t c) :=
    fun _ _ _ hc hR => related_step zone hc hR
  have hrelated := exec_simulates hstep hmeets hstart
  have hcount : exec (countText zone) (.start, []) calls =
      exec (logged (ResettingCounter.State.next 10000) (ResettingCounter.State.stamp 10000))
        (.start, []) (calls.map fun c => zone.text c.now) := by
    unfold exec
    rw [List.foldl_map]
    rfl
  rw [ids, hrelated.2.2, hcount, ResettingCounter.stamps]

section Law

variable {zone zone' : Zone} {node node' : String} {calls calls' : List Call}

theorem map_text_eq (zone : Zone) (calls : List Call) :
    (calls.map fun c => zone.text c.now) = (calls.map fun c => zone.localSecond c.now).map
      fun n => String.ofList (format (.ofSecond n)) := by
  rw [List.map_map]
  rfl

theorem ofList_format_injective :
    Function.Injective fun n => String.ofList (format (.ofSecond n)) := by
  intro m n h
  exact format_injective (String.ofList_injective h)

theorem length_text_eq_iff (zone : Zone) (now : ℕ) : (zone.text now).length = 14 ↔
    (DateTime.ofSecond (zone.localSecond now)).date.year ≤ 9999 := by
  rw [Zone.text, String.length_ofList, length_format_eq_iff]

/-- A stamp has the text of a call and a number of four digits. -/
theorem of_mem_stamps {stamp : String × ℕ}
    (h : stamp ∈ ResettingCounter.stamps 10000 (calls.map fun c => zone.text c.now)) :
    (∃ c ∈ calls, zone.text c.now = stamp.1) ∧ stamp.2 < 10000 := by
  refine ⟨?_, ResettingCounter.lt_of_mem_stamps (by decide) h⟩
  have htext := List.mem_map_of_mem (f := Prod.fst) h
  rw [ResettingCounter.map_fst_stamps] at htext
  exact List.mem_map.mp htext

theorem mem_ids (h : UsesNode zone node calls) {id : String} (hid : id ∈ ids zone calls) :
    ∃ c ∈ calls, ∃ k < 10000, id = render (zone.text c.now) node k := by
  rw [ids_eq h] at hid
  obtain ⟨stamp, hstamp, rfl⟩ := List.mem_map.mp hid
  obtain ⟨⟨c, hc, htext⟩, hk⟩ := of_mem_stamps hstamp
  exact ⟨c, hc, stamp.2, hk, by rw [htext]⟩

/-- Every call returns a serial number with its text. -/
theorem exists_id (h : UsesNode zone node calls) {c : Call} (hc : c ∈ calls) :
    ∃ k < 10000, render (zone.text c.now) node k ∈ ids zone calls := by
  have htext : zone.text c.now ∈
      (ResettingCounter.stamps 10000 (calls.map fun c => zone.text c.now)).map Prod.fst := by
    rw [ResettingCounter.map_fst_stamps]
    exact List.mem_map_of_mem hc
  obtain ⟨stamp, hstamp, htext⟩ := List.mem_map.mp htext
  refine ⟨stamp.2, ResettingCounter.lt_of_mem_stamps (by decide) hstamp, ?_⟩
  rw [ids_eq h, ← htext]
  exact List.mem_map_of_mem hstamp

theorem twenty_iff (hlength : node.length = 2) (h : UsesNode zone node calls) :
    (∀ id ∈ ids zone calls, id.length = 20) ↔
      ∀ c ∈ calls, (DateTime.ofSecond (zone.localSecond c.now)).date.year ≤ 9999 := by
  constructor
  · intro htwenty c hc
    obtain ⟨k, hk, hmem⟩ := exists_id h hc
    have hid := htwenty _ hmem
    rw [length_render _ _ hk] at hid
    rw [← length_text_eq_iff]
    omega
  · intro hyears id hid
    obtain ⟨c, hc, k, hk, rfl⟩ := mem_ids h hid
    have htext := (length_text_eq_iff zone c.now).mpr (hyears c hc)
    rw [length_render _ _ hk]
    omega

/-- A serial number shows the number of its node. -/
theorem notMem_ids (hlength : node.length = node'.length) (hne : node ≠ node')
    (h : UsesNode zone node calls) (h' : UsesNode zone' node' calls') {id : String}
    (hid : id ∈ ids zone calls) : id ∉ ids zone' calls' := by
  intro hid'
  obtain ⟨c, -, k, hk, rfl⟩ := mem_ids h hid
  obtain ⟨c', -, k', hk', hsame⟩ := mem_ids h' hid'
  have htext := length_text_ge zone c.now
  have htext' := length_text_ge zone' c'.now
  exact hne (render_inj (by omega) (by omega) hlength hk hk' hsame).2.1

theorem nodup_ids_iff (h : UsesNode zone node calls) : (ids zone calls).Nodup ↔
    ResettingCounter.Grouped (calls.map fun c => zone.localSecond c.now) ∧
      ∀ second, (calls.map fun c => zone.localSecond c.now).count second ≤ 10000 := by
  have hstamps : (ids zone calls).Nodup ↔
      (ResettingCounter.stamps 10000 (calls.map fun c => zone.text c.now)).Nodup := by
    rw [ids_eq h]
    constructor
    · exact List.Nodup.of_map _
    · intro hnodup
      refine hnodup.map_on fun stamp hstamp stamp' hstamp' hsame => ?_
      obtain ⟨⟨c, -, htext⟩, hk⟩ := of_mem_stamps hstamp
      obtain ⟨⟨c', -, htext'⟩, hk'⟩ := of_mem_stamps hstamp'
      have hlength := length_text_ge zone c.now
      have hlength' := length_text_ge zone c'.now
      rw [htext] at hlength
      rw [htext'] at hlength'
      obtain ⟨hfirst, -, hsecond⟩ := render_inj (by omega) (by omega) rfl hk hk' hsame
      exact Prod.ext hfirst hsecond
  rw [hstamps, ResettingCounter.nodup_stamps_iff (by decide), map_text_eq,
    ResettingCounter.grouped_map_iff ofList_format_injective,
    ResettingCounter.forall_count_map_le_iff ofList_format_injective]

theorem Lawful.suited (hlength : node.length = 2) (h : UsesNode zone node calls)
    (hlawful : Lawful zone node calls) : Suited zone calls := by
  obtain ⟨hgrouped, hcapacity⟩ := (nodup_ids_iff h).mp hlawful.distinct
  exact ⟨hgrouped, hcapacity, (twenty_iff hlength h).mp hlawful.twenty⟩

theorem Suited.lawful (hlength : node.length = 2) (h : UsesNode zone node calls)
    (hsuited : Suited zone calls) : Lawful zone node calls := by
  refine ⟨?_, (twenty_iff hlength h).mpr hsuited.four_digits, ?_⟩
  · exact (nodup_ids_iff h).mpr ⟨hsuited.grouped, hsuited.capacity⟩
  · intro zone' node' calls' hlength' hne h' id hid
    exact notMem_ids (hlength.trans hlength'.symm) hne.symm h h' hid

/-- In every run of a node with a two-character number, the serial numbers are distinct, have twenty
characters and differ from those of the other nodes exactly if the local clock comes back to no
second that it has left, no second of it has more than ten thousand calls, and its years have four
digits. -/
theorem next_lawful_iff (hlength : node.length = 2) (h : UsesNode zone node calls) :
    Lawful zone node calls ↔ Suited zone calls :=
  ⟨Lawful.suited hlength h, Suited.lawful hlength h⟩

/-! ### Clocks that never go back -/

/-- The clock never goes back, and at most ten thousand calls fall in one second. -/
structure Paced (calls : List Call) : Prop where
  forward : (calls.map Call.now).Pairwise (· ≤ ·)
  capacity : ∀ second, (calls.map fun c => c.now / 1000).count second ≤ 10000

/-- Few calls are not too many for a second. -/
theorem paced_of_length (hforward : (calls.map Call.now).Pairwise (· ≤ ·))
    (hfew : calls.length ≤ 10000) : Paced calls where
  forward := hforward
  capacity second := by
    apply List.count_le_length.trans
    rw [List.length_map]
    exact hfew

theorem exists_localSecond_eq {k : ℤ} (hfixed : ∀ now, zone.offset now = 1000 * k) :
    ∃ shift, ∀ now, zone.localSecond now = now / 1000 + shift := by
  refine ⟨(135140 * 86400 + k).toNat, fun now => ?_⟩
  have hgt := zone.offset_gt now
  rw [hfixed] at hgt
  rw [Zone.localSecond, hfixed]
  omega

/-- Where the local time is always as far from the clock, the serial numbers are as they should be
up to the year 9999. -/
theorem lawful_of_fixed {k : ℤ} (hfixed : ∀ now, zone.offset now = 1000 * k)
    (hlength : node.length = 2) (h : UsesNode zone node calls) (hpaced : Paced calls)
    (hyears : ∀ c ∈ calls, (DateTime.ofSecond (zone.localSecond c.now)).date.year ≤ 9999) :
    Lawful zone node calls := by
  obtain ⟨shift, hshift⟩ := exists_localSecond_eq hfixed
  have hinjective : Function.Injective (· + shift) := fun m n hsame => Nat.add_right_cancel hsame
  have hseconds : (calls.map fun c => zone.localSecond c.now) =
      (calls.map fun c => c.now / 1000).map (· + shift) := by
    simp [hshift]
  have hforward : (calls.map fun c => c.now / 1000).Pairwise (· ≤ ·) := by
    apply List.pairwise_map.mpr
    exact (List.pairwise_map.mp hpaced.forward).imp fun hle => Nat.div_le_div_right hle
  refine Suited.lawful hlength h ⟨?_, ?_, hyears⟩
  · rw [hseconds, ResettingCounter.grouped_map_iff hinjective]
    exact ResettingCounter.grouped_of_pairwise_le hforward
  · rw [hseconds, ResettingCounter.forall_count_map_le_iff hinjective]
    exact hpaced.capacity

/-! ### Node numbers -/

theorem getNodeNumber_of_ne {c : Call} {n : String} (h : n ≠ "--") :
    getNodeNumber c n = .ok n n := by
  rw [getNodeNumber, bind_of_ok (get_apply n), onlyIf, if_neg h]
  rfl

theorem getNodeNumber_eq_ok {c : Call} {n t : String} (h : getNodeNumber c n = .ok node t) :
    t = node := by
  obtain ⟨_, _, -, h⟩ := bind_eq_ok.mp h
  obtain ⟨_, u, -, h⟩ := bind_eq_ok.mp h
  rw [get_apply] at h
  cases h
  rfl

/-- The pair binds an address of the host to the number. -/
def Binds (hostIpAddress ipvalue number : String) : Prop :=
  ∃ address rest, JavaText.split '=' ipvalue = address :: number :: rest ∧
    JavaText.contains hostIpAddress address = true

theorem bindNode_eq_ok {hostIpAddress ipvalue n t : String}
    (h : bindNode hostIpAddress ipvalue n = .ok () t) : t = n ∨ Binds hostIpAddress ipvalue t := by
  unfold bindNode at h
  cases hparts : JavaText.split '=' ipvalue with
  | nil =>
    rw [hparts] at h
    cases h
    exact .inl rfl
  | cons address rest =>
    rw [hparts] at h
    dsimp only at h
    rw [onlyIf_eq_ok] at h
    split_ifs at h with hhost
    · cases rest with
      | nil => cases h
      | cons number rest =>
        cases h
        exact .inr ⟨address, rest, hparts, hhost⟩
    · exact .inl h.symm

theorem bindNodes_eq_ok {hostIpAddress n t : String} {ipAddressValues : List String}
    (h : bindNodes hostIpAddress ipAddressValues n = .ok () t) :
    t = n ∨ ∃ ipvalue ∈ ipAddressValues, Binds hostIpAddress ipvalue t := by
  induction ipAddressValues generalizing n with
  | nil =>
    cases h
    exact .inl rfl
  | cons ipvalue ipAddressValues ih =>
    obtain ⟨_, u, hfirst, hrest⟩ := bind_eq_ok.mp h
    cases ih hrest with
    | inl hkept =>
      rw [hkept]
      exact (bindNode_eq_ok hfirst).imp id fun hbinds => ⟨ipvalue, List.mem_cons_self, hbinds⟩
    | inr hlater =>
      obtain ⟨later, hmem, hbinds⟩ := hlater
      exact .inr ⟨later, List.mem_cons_of_mem ipvalue hmem, hbinds⟩

/-- A node number is the default one, the configured text, or the one of a pair that names an
address of the host. -/
theorem getNodeNumber_source {c : Call} {t : String} (h : getNodeNumber c "--" = .ok node t) :
    node = DEFAULT_NODE_NUMBER ∨ c.nodeNumber = some node ∨
      ∃ ipAddressConfigValue ∈ c.nodeNumber, ∃ ipvalue ∈ JavaText.split ',' ipAddressConfigValue,
        Binds c.hostMacAddress ipvalue node := by
  obtain ⟨_, _, hget, h⟩ := bind_eq_ok.mp h
  cases hget
  obtain ⟨_, u, hfind, h⟩ := bind_eq_ok.mp h
  cases h
  rw [onlyIf, if_pos rfl] at hfind
  unfold findNodeNumber at hfind
  cases hconfig : c.nodeNumber with
  | none =>
    rw [hconfig] at hfind
    cases hfind
    exact .inl rfl
  | some ipAddressConfigValue =>
    rw [hconfig] at hfind
    dsimp only at hfind
    split_ifs at hfind with hempty hpairs
    · cases hfind
      exact .inl rfl
    · obtain ⟨_, v, hbound, hfind⟩ := bind_eq_ok.mp hfind
      obtain ⟨_, _, hget, hfind⟩ := bind_eq_ok.mp hfind
      cases hget
      rw [onlyIf_eq_ok] at hfind
      split_ifs at hfind with hunbound
      · cases hfind
        exact .inl rfl
      · rw [← hfind]
        exact .inr (.inr ⟨_, rfl, (bindNodes_eq_ok hbound).resolve_left hunbound⟩)
    · cases hfind
      exact .inr (.inl rfl)

/-- A node keeps the number that it has found. -/
theorem usesNode_of_first {c : Call} {t : String} (hne : node ≠ "--")
    (h : getNodeNumber c "--" = .ok node t) (calls : List Call) :
    UsesNode zone node (c :: calls) := by
  have hkept : ∀ s : Statics, s.STATIC_NODE_NUMBER = node →
      Meets (step zone) (fun s c => ∃ t, getNodeNumber c s.STATIC_NODE_NUMBER = .ok node t) s
        calls := by
    induction calls with
    | nil => exact fun _ _ => trivial
    | cons c calls ih =>
      intro s hs
      have hnumber : getNodeNumber c s.STATIC_NODE_NUMBER = .ok node node := by
        rw [hs, getNodeNumber_of_ne hne]
      refine ⟨⟨node, hnumber⟩, ih _ ?_⟩
      rw [step, final_of_ok (next_eq hnumber)]
  have ht := getNodeNumber_eq_ok h
  refine ⟨⟨t, h⟩, hkept _ ?_⟩
  rw [step, final_of_ok (@next_eq zone {} c _ _ h)]
  exact ht

end Law

section Examples

/-- Central European time: the clocks go back from three to two at one o'clock UTC on
October 27, 2024. -/
def europeBerlin : Zone where
  offset now := if now < 1729990800000 then 7200000 else 3600000
  offset_gt now := by split_ifs <;> omega
  offset_lt now := by split_ifs <;> omega

def utc : Zone where
  offset _ := 0
  offset_gt _ := by decide
  offset_lt _ := by decide

/-- A call on a node without a configured number. -/
def unconfigured (now : ℕ) : Call where
  now := now
  nodeNumber := none
  hostMacAddress := ""

/-- Half past two in summer time, two o'clock and half past two in winter time. -/
def clocksGoBack : List Call :=
  [unconfigured 1729989000000, unconfigured 1729990800000, unconfigured 1729992600000]

/-- The first and the third of these calls return the same. -/
example : ids europeBerlin clocksGoBack =
    ["20241027010230000001", "20241027010200000001", "20241027010230000001"] := by decide +kernel

theorem usesNode_unconfigured (zone : Zone) (now : ℕ) (calls : List Call) :
    UsesNode zone "01" (unconfigured now :: calls) := usesNode_of_first (by decide) rfl calls

/-- Two calls half an hour apart from a third between them return the same serial number, and from
the year 10000 on the serial numbers have twenty-one characters. -/
theorem next_not_lawful :
    (Paced clocksGoBack ∧ UsesNode europeBerlin "01" clocksGoBack ∧
      ¬(ids europeBerlin clocksGoBack).Nodup) ∧
    (Paced [unconfigured 253402300800000] ∧ UsesNode utc "01" [unconfigured 253402300800000] ∧
      ¬∀ id ∈ ids utc [unconfigured 253402300800000], id.length = 20) := by
  refine ⟨⟨?_, ?_, ?_⟩, ?_, ?_, ?_⟩
  · exact paced_of_length (by decide) (by decide)
  · exact usesNode_unconfigured europeBerlin _ _
  · decide +kernel
  · exact paced_of_length (by decide) (by decide)
  · exact usesNode_unconfigured utc _ _
  · decide +kernel

theorem next_lawful_iff_utc :
    Lawful utc "01" [unconfigured 1729989000000, unconfigured 1729989000000] := by
  apply (next_lawful_iff (by decide) (usesNode_unconfigured utc _ _)).mpr
  refine ⟨?_, fun second => ?_, by decide +kernel⟩
  · exact ResettingCounter.grouped_of_pairwise_le (by decide)
  · exact List.count_le_length.trans (by decide)

end Examples

end MaxKey.IdSequence
