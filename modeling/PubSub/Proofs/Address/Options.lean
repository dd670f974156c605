import PubSub.Address
import PubSub.Proofs.Text.Numerals

/-!
# Options of addresses

Options are applied in turn. Which of them are refused does not depend on the settings so far, and each sets one field,
so that of several with one key the last is in force, whatever stands between them.

* `Address.Judges`: which options are refused, and with which error.
* `Address.Touches`, `Address.Sets`: the field that the options of a key set, and what their values mean for it.
* `Address.lastValue`, `Address.Settled`: the value in force.

Results:

* `Judges.applyOptions_iff`: options are applied if and only if all are accepted.
* `Judges.applyOptions_refused`: else the first that is refused makes the error.
* `Sets.settled`: in the end a field is what the last value of its key means.
* `changeMulticast_judges`, `changeMulticast_eq_ok`: what the options of multicast addresses do.
* `changeFile_judges`, `changeFile_eq_ok`: what those of journal addresses do.
-/

namespace PubSub.Address

/-! ## Options in general -/

section General

variable {σ α : Type} {change : σ → String → String → Option (Except Error σ)} {accepts : String → String → Prop}
  {error : String → String → Error} {s t : σ} {key value : String} {p : String × String}
  {pairs before after : List (String × String)}

theorem applyOptions_none (h : change s key value = none) (rest : List (String × String)) :
    (applyOptions change s ((key, value) :: rest)).1 = (applyOptions change s rest).1 := by
  rw [applyOptions, h]

theorem applyOptions_error {e : Error} (h : change s key value = some (.error e)) (rest : List (String × String)) :
    (applyOptions change s ((key, value) :: rest)).1 = .error e := by
  rw [applyOptions, h]

theorem applyOptions_ok (h : change s key value = some (.ok t)) (rest : List (String × String)) :
    (applyOptions change s ((key, value) :: rest)).1 = (applyOptions change t rest).1 := by
  rw [applyOptions, h]

/-- Where options are applied, the first is not known, or it is applied before the others. -/
theorem applyOptions_cons_ok {rest : List (String × String)} (h : (applyOptions change s (p :: rest)).1 = .ok t) :
    change s p.1 p.2 = none ∧ (applyOptions change s rest).1 = .ok t ∨
      ∃ r, change s p.1 p.2 = some (.ok r) ∧ (applyOptions change r rest).1 = .ok t := by
  cases hc : change s p.1 p.2 with
  | none =>
    rw [applyOptions_none hc] at h
    exact .inl ⟨rfl, h⟩
  | some result =>
    cases result with
    | error e =>
      rw [applyOptions_error hc] at h
      cases h
    | ok r =>
      rw [applyOptions_ok hc] at h
      exact .inr ⟨r, rfl, h⟩

/-- Which options are refused, and with which error, is the same for all settings. -/
def Judges (change : σ → String → String → Option (Except Error σ)) (accepts : String → String → Prop)
    (error : String → String → Error) : Prop :=
  ∀ s key value e, change s key value = some (.error e) ↔ ¬ accepts key value ∧ e = error key value

/-- An accepted option leaves the others to be applied. -/
theorem Judges.step (hj : Judges change accepts error) (hp : accepts p.1 p.2) (s : σ) :
    ∃ t, ∀ rest, (applyOptions change s (p :: rest)).1 = (applyOptions change t rest).1 := by
  cases hc : change s p.1 p.2 with
  | none => exact ⟨s, applyOptions_none hc⟩
  | some result =>
    cases result with
    | error e => exact absurd hp ((hj s p.1 p.2 e).1 hc).1
    | ok t => exact ⟨t, applyOptions_ok hc⟩

theorem Judges.applyOptions_accepted (hj : Judges change accepts error) (h : ∀ p ∈ pairs, accepts p.1 p.2) (s : σ) :
    ∃ t, (applyOptions change s pairs).1 = .ok t := by
  induction pairs generalizing s with
  | nil => exact ⟨s, rfl⟩
  | cons p rest ih =>
    rw [List.forall_mem_cons] at h
    obtain ⟨t, ht⟩ := hj.step h.1 s
    rw [ht]
    exact ih h.2 t

/-- The first option that is refused makes the error. -/
theorem Judges.applyOptions_refused (hj : Judges change accepts error) (h : ∀ p ∈ before, accepts p.1 p.2)
    (hp : ¬ accepts p.1 p.2) (s : σ) :
    (applyOptions change s (before ++ p :: after)).1 = .error (error p.1 p.2) := by
  induction before generalizing s with
  | nil => exact applyOptions_error ((hj s p.1 p.2 _).2 ⟨hp, rfl⟩) after
  | cons q rest ih =>
    rw [List.forall_mem_cons] at h
    obtain ⟨t, ht⟩ := hj.step h.1 s
    rw [List.cons_append, ht]
    exact ih h.2 t

/-- Where not all options are accepted there is a first one that is not. -/
theorem exists_first_refused (h : ¬ ∀ p ∈ pairs, accepts p.1 p.2) :
    ∃ before p after, pairs = before ++ p :: after ∧ (∀ q ∈ before, accepts q.1 q.2) ∧ ¬ accepts p.1 p.2 := by
  induction pairs with
  | nil => exact absurd (fun p hp => absurd hp List.not_mem_nil) h
  | cons p rest ih =>
    by_cases hp : accepts p.1 p.2
    · obtain ⟨before, q, after, rfl, hb, hq⟩ := ih fun hall => h (List.forall_mem_cons.2 ⟨hp, hall⟩)
      exact ⟨p :: before, q, after, rfl, List.forall_mem_cons.2 ⟨hp, hb⟩, hq⟩
    · exact ⟨[], p, rest, rfl, fun q hq => absurd hq List.not_mem_nil, hp⟩

/-- Options are applied if and only if all are accepted. -/
theorem Judges.applyOptions_iff (hj : Judges change accepts error) (s : σ) :
    (∃ t, (applyOptions change s pairs).1 = .ok t) ↔ ∀ p ∈ pairs, accepts p.1 p.2 := by
  refine ⟨fun ⟨t, ht⟩ => ?_, fun h => hj.applyOptions_accepted h s⟩
  by_contra h
  obtain ⟨before, p, after, rfl, hb, hp⟩ := exists_first_refused h
  rw [hj.applyOptions_refused hb hp s] at ht
  cases ht

/-! ## The last value of a key -/

/-- The value of the last pair with the given key. -/
def lastValue (key : String) (pairs : List (String × String)) : Option String :=
  ((pairs.filter (·.1 = key)).getLast?).map Prod.snd

theorem lastValue_cons_of_ne (hp : p.1 ≠ key) (rest : List (String × String)) :
    lastValue key (p :: rest) = lastValue key rest := by
  rw [lastValue, List.filter_cons_of_neg (by simpa using hp), lastValue]

theorem lastValue_cons (hp : p.1 = key) (rest : List (String × String)) :
    lastValue key (p :: rest) = some ((lastValue key rest).getD p.2) := by
  rw [lastValue, List.filter_cons_of_pos (by simpa using hp), List.getLast?_cons, lastValue]
  cases (rest.filter (·.1 = key)).getLast? with
  | none => rfl
  | some q => rfl

/-- What a field is in the end: what the last value of its key means, or as it was. -/
def Settled (means : String → α → Prop) (start final : α) : Option String → Prop
  | none => final = start
  | some value => means value final

/-- What an option does to the field of the key `key`: it sets the field if it has that key, and else leaves it. -/
def Touches (key : String) (means : String → α → Prop) (p : String × String) (start final : α) : Prop :=
  if p.1 = key then means p.2 final else final = start

/-- What an option does to a field is in force unless a later value of the key is. -/
theorem Touches.settled {means : String → α → Prop} {start mid final : α} {rest : List (String × String)}
    (ht : Touches key means p start mid) (hr : Settled means mid final (lastValue key rest)) :
    Settled means start final (lastValue key (p :: rest)) := by
  by_cases hk : p.1 = key
  · rw [Touches, if_pos hk] at ht
    rw [lastValue_cons hk]
    cases hl : lastValue key rest with
    | none =>
      rw [hl] at hr
      have hfinal : final = mid := hr
      exact (hfinal ▸ ht : means p.2 final)
    | some last =>
      rw [hl] at hr
      exact hr
  · rw [Touches, if_neg hk] at ht
    rw [lastValue_cons_of_ne hk, ← ht]
    exact hr

/-- Options of the key are known, and they alone set the field. -/
structure Sets (change : σ → String → String → Option (Except Error σ)) (key : String) (get : σ → α)
    (means : String → α → Prop) : Prop where
  known : ∀ s value, change s key value ≠ none
  touches : ∀ s p t, change s p.1 p.2 = some (.ok t) → Touches key means p (get s) (get t)

/-- The last value of a key is in force, whatever else there is. -/
theorem Sets.settled {get : σ → α} {means : String → α → Prop} (hs : Sets change key get means)
    (h : (applyOptions change s pairs).1 = .ok t) :
    Settled means (get s) (get t) (lastValue key pairs) := by
  induction pairs generalizing s with
  | nil =>
    cases h
    exact rfl
  | cons p rest ih =>
    obtain ⟨hc, h⟩ | ⟨r, hc, h⟩ := applyOptions_cons_ok h
    · have hk : p.1 ≠ key := fun hk => hs.known s p.2 (hk ▸ hc)
      rw [lastValue_cons_of_ne hk]
      exact ih h
    · exact (hs.touches s p r hc).settled (ih h)

/-- What every option keeps, all together do. -/
theorem applyOptions_keeps {get : σ → α}
    (hk : ∀ s (p : String × String) t, change s p.1 p.2 = some (.ok t) → get t = get s)
    (h : (applyOptions change s pairs).1 = .ok t) : get t = get s := by
  induction pairs generalizing s with
  | nil =>
    cases h
    rfl
  | cons p rest ih =>
    obtain ⟨-, h⟩ | ⟨r, hc, h⟩ := applyOptions_cons_ok h
    · exact ih h
    · exact (ih h).trans (hk s p r hc)

end General

/-! ## Values -/

theorem withValue_eq_ok {σ α : Type} {key value : String} {read : Option α} {set : α → σ} {t : σ} :
    withValue key value read set = some (.ok t) ↔ ∃ a, read = some a ∧ t = set a := by
  cases read with
  | none => simp [withValue]
  | some a => simp [withValue, eq_comm]

theorem withValue_eq_error {σ α : Type} {key value : String} {read : Option α} {set : α → σ} {e : Error}
    {means : α → Prop} (hr : ∀ a, read = some a ↔ means a) :
    withValue key value read set = some (.error e) ↔ ¬ (∃ a, means a) ∧ e = badValue key value := by
  simp only [← hr]
  cases read with
  | none => simp [withValue, eq_comm]
  | some a => simp [withValue]

theorem withValue_ne_none {σ α : Type} {key value : String} {read : Option α} {set : α → σ} :
    withValue key value read set ≠ none := by
  cases read with
  | none => simp [withValue]
  | some a => simp [withValue]

/-- The value says whether, in one of several words. -/
def IsTruth (value : String) : Bool → Prop
  | true => value ∈ ["true", "1", "yes", ""]
  | false => value ∈ ["false", "0", "no"]

theorem bool?_eq_some_iff {value : String} {b : Bool} : bool? value = some b ↔ IsTruth value b := by
  have hboth : value ∈ ["false", "0", "no"] → value ∉ ["true", "1", "yes", ""] := by
    intro hf ht
    simp only [List.mem_cons, List.not_mem_nil, or_false] at hf
    rcases hf with rfl | rfl | rfl <;> exact absurd ht (by decide)
  rw [bool?]
  simp only [List.contains_iff_mem]
  by_cases ht : value ∈ ["true", "1", "yes", ""]
  · rw [if_pos ht]
    cases b with
    | true => exact iff_of_true rfl ht
    | false => exact iff_of_false (by simp) fun hf => hboth hf ht
  · rw [if_neg ht]
    by_cases hf : value ∈ ["false", "0", "no"]
    · rw [if_pos hf]
      cases b with
      | true => exact iff_of_false (by simp) ht
      | false => exact iff_of_true rfl hf
    · rw [if_neg hf]
      cases b with
      | true => exact iff_of_false (by simp) ht
      | false => exact iff_of_false (by simp) hf

theorem ofLetter?_eq_some_iff {value : String} {m : Journal.Mode} :
    Journal.Mode.ofLetter? value = some m ↔ m.letter = value := by
  constructor
  · intro h
    unfold Journal.Mode.ofLetter? at h
    split at h
    case h_4 => cases h
    all_goals
      cases h
      rfl
  · rintro rfl
    cases m with
    | read => rfl
    | write => rfl
    | append => rfl

/-- The value is the size of a buffer. -/
def IsBufferSize (value : String) (size : Option Nat) : Prop := ∃ n, Text.IsNatural maxWord value n ∧ size = some n

/-- The value is a time to start from. -/
def IsStart (value : String) (start : Option Timestamp) : Prop :=
  ∃ z, Text.IsInteger Int64.minValue.toInt Int64.maxValue.toInt value z ∧ start = some (Int64.ofInt z)

/-- The value is the size of a datagram that has room for a fragment and can be sent. -/
def IsDatagramSize (value : String) (n : Nat) : Prop := Text.IsNatural maxDatagramSize value n ∧ minDatagramSize ≤ n

theorem isDatagramSize_iff {value : String} {n : Nat} :
    IsDatagramSize value n ↔ Text.nat? maxWord value = some n ∧ minDatagramSize ≤ n ∧ n ≤ maxDatagramSize := by
  have hword : n ≤ maxDatagramSize → n ≤ maxWord := fun h => Nat.le_trans h (by decide)
  rw [IsDatagramSize, Text.nat?_eq_some_iff]
  constructor
  · rintro ⟨⟨hle, hn⟩, hmin⟩
    exact ⟨⟨hword hle, hn⟩, hmin, hle⟩
  · rintro ⟨⟨-, hn⟩, hmin, hle⟩
    exact ⟨⟨hle, hn⟩, hmin⟩

/-! ## Multicast options -/

/-- The options of multicast URLs with a value of their kind, and all that are not known. -/
def AcceptsMulticast (key value : String) : Prop :=
  match key with
  | "ttl" => ∃ n, Text.IsNatural 255 value n
  | "transmit_only" => ∃ b, IsTruth value b
  | "recv_buf_size" => ∃ n, Text.IsNatural maxWord value n
  | "mtu" => ∃ n, IsDatagramSize value n
  | "frag_timeout_ms" => ∃ n, Text.IsNatural maxWord value n
  | _ => True

/-- The error of a multicast option that is not accepted: what is a number may not be the size of a datagram. -/
def multicastError (key value : String) : Error :=
  if key = "mtu" then
    (Text.nat? maxWord value).elim (badValue key value) fun n =>
      .invalidArgument (.datagramSize n minDatagramSize maxDatagramSize)
  else badValue key value

theorem changeMulticast_judges : Judges changeMulticast AcceptsMulticast multicastError := by
  intro s key value e
  unfold changeMulticast
  split
  case h_1 => exact withValue_eq_error fun n => Text.nat?_eq_some_iff
  case h_2 => exact withValue_eq_error fun b => bool?_eq_some_iff
  case h_3 => exact withValue_eq_error fun n => Text.nat?_eq_some_iff
  case h_4 =>
    change _ ↔ ¬ (∃ n, IsDatagramSize value n) ∧ _
    simp only [isDatagramSize_iff, multicastError, if_true]
    cases Text.nat? maxWord value with
    | none => simp [eq_comm]
    | some n =>
      by_cases hsize : minDatagramSize ≤ n ∧ n ≤ maxDatagramSize
      · simp [hsize]
      · simp [hsize, eq_comm]
  case h_5 => exact withValue_eq_error fun n => Text.nat?_eq_some_iff
  case h_6 => simp [AcceptsMulticast]

theorem changeMulticast_ne_none {s : MulticastAddress} {key value : String}
    (hkey : key ∈ ["ttl", "transmit_only", "recv_buf_size", "mtu", "frag_timeout_ms"]) :
    changeMulticast s key value ≠ none := by
  simp only [List.mem_cons, List.not_mem_nil, or_false] at hkey
  rcases hkey with rfl | rfl | rfl | rfl | rfl
  case inr.inr.inr.inl =>
    unfold changeMulticast
    cases Text.nat? maxWord value with
    | none => simp
    | some n =>
      simp only [ne_eq]
      split <;> simp
  all_goals exact withValue_ne_none

/-- What a multicast option does to each field. -/
structure MulticastChange (p : String × String) (s t : MulticastAddress) : Prop where
  group : t.group = s.group
  port : t.port = s.port
  ttl : Touches "ttl" (Text.IsNatural 255) p s.ttl t.ttl
  transmitOnly : Touches "transmit_only" IsTruth p s.transmitOnly t.transmitOnly
  receiveBuffer : Touches "recv_buf_size" IsBufferSize p s.receiveBuffer t.receiveBuffer
  datagramSize : Touches "mtu" IsDatagramSize p s.datagramSize t.datagramSize
  fragmentTimeout : Touches "frag_timeout_ms" (Text.IsNatural maxWord) p s.fragmentTimeout t.fragmentTimeout

theorem changeMulticast_eq_ok {s t : MulticastAddress} {p : String × String}
    (h : changeMulticast s p.1 p.2 = some (.ok t)) : MulticastChange p s t := by
  obtain ⟨key, value⟩ := p
  simp only at h
  unfold changeMulticast at h
  split at h
  case h_1 =>
    obtain ⟨n, hn, rfl⟩ := withValue_eq_ok.1 h
    constructor <;> simp [Touches, Text.nat?_eq_some_iff.1 hn]
  case h_2 =>
    obtain ⟨b, hb, rfl⟩ := withValue_eq_ok.1 h
    constructor <;> simp [Touches, bool?_eq_some_iff.1 hb]
  case h_3 =>
    obtain ⟨n, hn, rfl⟩ := withValue_eq_ok.1 h
    constructor <;> simp [Touches, IsBufferSize, Text.nat?_eq_some_iff.1 hn]
  case h_4 =>
    cases hn : Text.nat? maxWord value with
    | none =>
      simp only [hn] at h
      cases h
    | some n =>
      simp only [hn] at h
      by_cases hsize : minDatagramSize ≤ n ∧ n ≤ maxDatagramSize
      · rw [if_pos hsize] at h
        cases h
        constructor <;> simp [Touches, isDatagramSize_iff.2 ⟨hn, hsize⟩]
      · rw [if_neg hsize] at h
        cases h
  case h_5 =>
    obtain ⟨n, hn, rfl⟩ := withValue_eq_ok.1 h
    constructor <;> simp [Touches, Text.nat?_eq_some_iff.1 hn]
  case h_6 => cases h

/-- The options of one key and the field that they set. -/
theorem multicastSets {α : Type} {key : String} {get : MulticastAddress → α} {means : String → α → Prop}
    (hkey : key ∈ ["ttl", "transmit_only", "recv_buf_size", "mtu", "frag_timeout_ms"])
    (h : ∀ p s t, MulticastChange p s t → Touches key means p (get s) (get t)) : Sets changeMulticast key get means :=
  ⟨fun _ _ => changeMulticast_ne_none hkey, fun _ _ _ hc => h _ _ _ (changeMulticast_eq_ok hc)⟩

/-! ## Journal options -/

/-- The options of journal URLs with a value of their kind, and all that are not known. -/
def AcceptsFile (key value : String) : Prop :=
  match key with
  | "mode" => ∃ m : Journal.Mode, m.letter = value
  | "speed" => ∃ x, Text.IsReal value x
  | "start_timestamp" => ∃ z, Text.IsInteger Int64.minValue.toInt Int64.maxValue.toInt value z
  | _ => True

/-- The error of a journal option that is not accepted. -/
def fileError (key value : String) : Error :=
  if key = "mode" then .invalidArgument (.journalMode value) else badValue key value

theorem changeFile_judges : Judges changeFile AcceptsFile fileError := by
  intro s key value e
  unfold changeFile
  split
  case h_1 =>
    change _ ↔ ¬ (∃ m : Journal.Mode, m.letter = value) ∧ _
    simp only [← ofLetter?_eq_some_iff, fileError, if_true]
    cases Journal.Mode.ofLetter? value with
    | none => simp [eq_comm]
    | some m => simp
  case h_2 => exact withValue_eq_error fun x => Text.float?_eq_some_iff
  case h_3 => exact withValue_eq_error fun z => Text.int?_eq_some_iff
  case h_4 => simp [AcceptsFile]

theorem changeFile_ne_none {s : FileAddress} {key value : String} (hkey : key ∈ ["mode", "speed", "start_timestamp"]) :
    changeFile s key value ≠ none := by
  simp only [List.mem_cons, List.not_mem_nil, or_false] at hkey
  rcases hkey with rfl | rfl | rfl
  case inl =>
    unfold changeFile
    cases Journal.Mode.ofLetter? value with
    | none => simp
    | some m => simp
  all_goals exact withValue_ne_none

/-- What a journal option does to each field. -/
structure FileChange (p : String × String) (s t : FileAddress) : Prop where
  path : t.path = s.path
  mode : Touches "mode" (fun value m => m.letter = value) p s.mode t.mode
  speed : Touches "speed" Text.IsReal p s.speed t.speed
  start : Touches "start_timestamp" IsStart p s.start t.start

theorem changeFile_eq_ok {s t : FileAddress} {p : String × String} (h : changeFile s p.1 p.2 = some (.ok t)) :
    FileChange p s t := by
  obtain ⟨key, value⟩ := p
  simp only at h
  unfold changeFile at h
  split at h
  case h_1 =>
    cases hm : Journal.Mode.ofLetter? value with
    | none =>
      simp only [hm] at h
      cases h
    | some m =>
      simp only [hm] at h
      cases h
      constructor <;> simp [Touches, ofLetter?_eq_some_iff.1 hm]
  case h_2 =>
    obtain ⟨x, hx, rfl⟩ := withValue_eq_ok.1 h
    constructor <;> simp [Touches, Text.float?_eq_some_iff.1 hx]
  case h_3 =>
    obtain ⟨z, hz, rfl⟩ := withValue_eq_ok.1 h
    constructor <;> simp [Touches, IsStart]
    exact ⟨z, Text.int?_eq_some_iff.1 hz, rfl⟩
  case h_4 => cases h

/-- The options of one key and the field that they set. -/
theorem fileSets {α : Type} {key : String} {get : FileAddress → α} {means : String → α → Prop}
    (hkey : key ∈ ["mode", "speed", "start_timestamp"])
    (h : ∀ p s t, FileChange p s t → Touches key means p (get s) (get t)) : Sets changeFile key get means :=
  ⟨fun _ _ => changeFile_ne_none hkey, fun _ _ _ hc => h _ _ _ (changeFile_eq_ok hc)⟩

end PubSub.Address
