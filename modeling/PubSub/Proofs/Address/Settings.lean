import PubSub.Proofs.Address.Options

/-!
# Addresses with options

What a URL is and which options it has is for a library of URLs to say; the results hold for every library.

* `Address.TellsMulticast`, `Address.TellsFile`: the settings that a URL tells, field by field.
* `Address.Follows`: settings where all options are accepted, and else the error of the first that is not.

Results:

* `Address.TellsMulticast.datagramSize_mem`: the size of datagrams is in bounds, set or not.
* `Address.parse_last_wins`: what is read of a URL follows its options.
-/

namespace PubSub.Address

/-- What a URL with the pairs `pairs` tells: settings that are as `tells` says, if all pairs are accepted, and else the
error of the first one that is not. -/
structure Follows {σ : Type} (result : Except Error Address) (pairs : List (String × String))
    (accepts : String → String → Prop) (error : String → String → Error) (wrap : σ → Address) (tells : σ → Prop) :
    Prop where
  ok_iff : (∃ a, result = .ok (wrap a)) ↔ ∀ p ∈ pairs, accepts p.1 p.2
  tells : ∀ a, result = .ok (wrap a) → tells a
  first_error : ∀ before p after, pairs = before ++ p :: after → (∀ q ∈ before, accepts q.1 q.2) → ¬ accepts p.1 p.2 →
    result = .error (error p.1 p.2)

theorem Judges.follows {σ : Type} {change : σ → String → String → Option (Except Error σ)}
    {accepts : String → String → Prop} {error : String → String → Error} {wrap : σ → Address} {tells : σ → Prop}
    {result : Except Error Address} {pairs : List (String × String)} {s : σ} (hj : Judges change accepts error)
    (hwrap : Function.Injective wrap) (ht : ∀ a, (applyOptions change s pairs).1 = .ok a → tells a)
    (hr : result = (applyOptions change s pairs).1.map wrap) : Follows result pairs accepts error wrap tells := by
  have hok : ∀ a, result = .ok (wrap a) ↔ (applyOptions change s pairs).1 = .ok a := by
    intro a
    rw [hr]
    cases (applyOptions change s pairs).1 with
    | error e => simp [Except.map]
    | ok b => simp [Except.map, hwrap.eq_iff]
  constructor
  · simp only [hok]
    exact hj.applyOptions_iff s
  · exact fun a ha => ht a ((hok a).1 ha)
  · rintro before p after rfl hb hp
    rw [hr, hj.applyOptions_refused hb hp s]
    rfl

section Library

variable {lib : Url.Library} {u : lib.Parsed} {group : Url.Ipv4} {path : ByteArray}

/-- The settings of a multicast URL: each is what the last value of its key means, or the default. -/
structure TellsMulticast (lib : Url.Library) (u : lib.Parsed) (group : Url.Ipv4) (a : MulticastAddress) : Prop where
  group : a.group = group
  port : a.port = (lib.port u).getD defaultPort
  ttl : Settled (Text.IsNatural 255) 0 a.ttl (lastValue "ttl" (lib.queryPairs u))
  transmitOnly : Settled IsTruth false a.transmitOnly (lastValue "transmit_only" (lib.queryPairs u))
  receiveBuffer : Settled IsBufferSize none a.receiveBuffer (lastValue "recv_buf_size" (lib.queryPairs u))
  datagramSize : Settled IsDatagramSize maxDatagramSize a.datagramSize (lastValue "mtu" (lib.queryPairs u))
  fragmentTimeout : Settled (Text.IsNatural maxWord) defaultFragmentTimeout a.fragmentTimeout
    (lastValue "frag_timeout_ms" (lib.queryPairs u))

/-- The settings of a journal URL: each is what the last value of its key means, or the default. -/
structure TellsFile (lib : Url.Library) (u : lib.Parsed) (path : ByteArray) (a : FileAddress) : Prop where
  path : a.path = path
  mode : Settled (fun value m => m.letter = value) .read a.mode (lastValue "mode" (lib.queryPairs u))
  speed : Settled Text.IsReal 0 a.speed (lastValue "speed" (lib.queryPairs u))
  start : Settled IsStart none a.start (lastValue "start_timestamp" (lib.queryPairs u))

theorem readGroup_eq_ok_iff : readGroup lib u = .ok group ↔
    Url.Ipv4.ofDotted? ((lib.host u).getD "") = some group ∧ group.isMulticast = true := by
  unfold readGroup
  split
  case h_1 h =>
    rw [h]
    exact iff_of_false (by simp) fun he => by cases he.1
  case h_2 =>
    cases Url.Ipv4.ofDotted? ((lib.host u).getD "") with
    | none => simp
    | some a =>
      simp only [Option.some.injEq]
      by_cases hm : a.isMulticast = true
      · rw [if_pos hm, Except.ok.injEq]
        exact ⟨fun he => ⟨he, he ▸ hm⟩, And.left⟩
      · rw [if_neg hm]
        exact iff_of_false (by simp) fun ⟨he, h⟩ => hm (he ▸ h)

theorem ofUrl_multicast (hu : lib.scheme u = "udpm") (hg : readGroup lib u = .ok group) :
    (ofUrl lib u).1 =
      (applyOptions changeMulticast (multicastDefault lib u group) (lib.queryPairs u)).1.map .multicast := by
  unfold ofUrl
  rw [hu]
  simp only [hg]

theorem ofUrl_file (hu : lib.scheme u = "file") (hp : readPath lib u = .ok path) :
    (ofUrl lib u).1 = (applyOptions changeFile { path } (lib.queryPairs u)).1.map .file := by
  unfold ofUrl
  rw [hu]
  simp only [hp]

theorem tellsMulticast {a : MulticastAddress}
    (h : (applyOptions changeMulticast (multicastDefault lib u group) (lib.queryPairs u)).1 = .ok a) :
    TellsMulticast lib u group a where
  group := applyOptions_keeps (fun _ _ _ hc => (changeMulticast_eq_ok hc).group) h
  port := applyOptions_keeps (fun _ _ _ hc => (changeMulticast_eq_ok hc).port) h
  ttl := (multicastSets (by simp) fun _ _ _ hc => hc.ttl).settled h
  transmitOnly := (multicastSets (by simp) fun _ _ _ hc => hc.transmitOnly).settled h
  receiveBuffer := (multicastSets (by simp) fun _ _ _ hc => hc.receiveBuffer).settled h
  datagramSize := (multicastSets (by simp) fun _ _ _ hc => hc.datagramSize).settled h
  fragmentTimeout := (multicastSets (by simp) fun _ _ _ hc => hc.fragmentTimeout).settled h

theorem tellsFile {a : FileAddress} (h : (applyOptions changeFile { path } (lib.queryPairs u)).1 = .ok a) :
    TellsFile lib u path a where
  path := applyOptions_keeps (fun _ _ _ hc => (changeFile_eq_ok hc).path) h
  mode := (fileSets (by simp) fun _ _ _ hc => hc.mode).settled h
  speed := (fileSets (by simp) fun _ _ _ hc => hc.speed).settled h
  start := (fileSets (by simp) fun _ _ _ hc => hc.start).settled h

theorem parseBy_eq_ofUrl {preferred : Option String} {text : String}
    (h : lib.parse (chosenText preferred text) = .ok u) : parseBy lib preferred text = ofUrl lib u := by
  rw [parseBy, parseText, h]

/-- Whatever is told, some URL tells it. -/
theorem exists_url_of_parseBy {preferred : Option String} {text : String} {a : Address}
    (h : (parseBy lib preferred text).1 = .ok a) : ∃ u, (ofUrl lib u).1 = .ok a := by
  unfold parseBy parseText at h
  split at h
  case h_1 => cases h
  case h_2 u _ => exact ⟨u, h⟩

/-- The size of datagrams is in bounds, set or not. -/
theorem TellsMulticast.datagramSize_mem {a : MulticastAddress} (h : TellsMulticast lib u group a) :
    minDatagramSize ≤ a.datagramSize ∧ a.datagramSize ≤ maxDatagramSize := by
  have hsize := h.datagramSize
  cases hl : lastValue "mtu" (lib.queryPairs u) with
  | none =>
    rw [hl] at hsize
    have heq : a.datagramSize = maxDatagramSize := hsize
    rw [heq]
    decide
  | some value =>
    rw [hl] at hsize
    exact ⟨hsize.2, hsize.1.1⟩

theorem exists_tellsMulticast {a : MulticastAddress} (h : (ofUrl lib u).1 = .ok (.multicast a)) :
    ∃ group, group.isMulticast = true ∧ TellsMulticast lib u group a := by
  unfold ofUrl at h
  split at h
  case h_1 => cases h
  case h_2 =>
    cases hg : readGroup lib u with
    | error e =>
      rw [hg] at h
      cases h
    | ok group =>
      rw [hg] at h
      change (applyOptions changeMulticast _ (lib.queryPairs u)).1.map Address.multicast = _ at h
      cases hr : (applyOptions changeMulticast (multicastDefault lib u group) (lib.queryPairs u)).1 with
      | error e =>
        rw [hr] at h
        cases h
      | ok b =>
        rw [hr] at h
        cases h
        exact ⟨group, (readGroup_eq_ok_iff.1 hg).2, tellsMulticast hr⟩
  case h_3 =>
    cases hp : readPath lib u with
    | error e =>
      rw [hp] at h
      cases h
    | ok path =>
      rw [hp] at h
      change (applyOptions changeFile _ (lib.queryPairs u)).1.map Address.file = _ at h
      cases hr : (applyOptions changeFile { path } (lib.queryPairs u)).1 with
      | error e =>
        rw [hr] at h
        cases h
      | ok b =>
        rw [hr] at h
        cases h
  case h_4 => cases h

end Library

/-- The options of a URL are settled by their last values, or else the first bad value is the error; and what is told of
a multicast group is in bounds. -/
theorem parse_last_wins (lib : Url.Library) :
    (∀ preferred text u, lib.parse (chosenText preferred text) = .ok u →
      (∀ group, lib.scheme u = "udpm" → Url.Ipv4.ofDotted? ((lib.host u).getD "") = some group →
        group.isMulticast = true → Follows (parseBy lib preferred text).1 (lib.queryPairs u) AcceptsMulticast
          multicastError Address.multicast (TellsMulticast lib u group)) ∧
      (∀ path, lib.scheme u = "file" → readPath lib u = .ok path →
        Follows (parseBy lib preferred text).1 (lib.queryPairs u) AcceptsFile fileError Address.file
          (TellsFile lib u path))) ∧
    ∀ preferred text a, (parseBy lib preferred text).1 = .ok (.multicast a) →
      a.group.isMulticast = true ∧ minDatagramSize ≤ a.datagramSize ∧ a.datagramSize ≤ maxDatagramSize := by
  refine ⟨fun preferred text u hu => ⟨fun group hs hg hm => ?_, fun path hs hp => ?_⟩, fun preferred text a h => ?_⟩
  · refine changeMulticast_judges.follows (fun _ _ => Address.multicast.inj) (fun a => tellsMulticast) ?_
    rw [parseBy_eq_ofUrl hu, ofUrl_multicast hs (readGroup_eq_ok_iff.2 ⟨hg, hm⟩)]
  · refine changeFile_judges.follows (fun _ _ => Address.file.inj) (fun a => tellsFile) ?_
    rw [parseBy_eq_ofUrl hu, ofUrl_file hs hp]
  · obtain ⟨u, hu⟩ := exists_url_of_parseBy h
    obtain ⟨group, hm, ht⟩ := exists_tellsMulticast hu
    exact ⟨ht.group ▸ hm, ht.datagramSize_mem⟩

/-- A URL with an option that is given twice. -/
def twice : Url where
  scheme := "udpm"
  host := some (.name "239.255.76.67")
  port := none
  path := []
  query := some "ttl=1&ttl=2".toList

/-- A URL with an option of a bad value behind others of good values. -/
def spoiled : Url where
  scheme := "file"
  host := none
  port := none
  path := "/a".toList
  query := some "mode=w&mode=x".toList

/-- A URL with a fraction for an option. -/
def halved : Url where
  scheme := "file"
  host := none
  port := none
  path := "/a".toList
  query := some "speed=1e9&speed=0.5&mtu=1".toList

theorem parse_last_wins_twice :
    (∃ a, (parse none "udpm://239.255.76.67?ttl=1&ttl=2").1 = .ok (.multicast a) ∧ a.ttl = 2 ∧
      a.group.isMulticast = true ∧ minDatagramSize ≤ a.datagramSize ∧ a.datagramSize ≤ maxDatagramSize) ∧
    (∃ a, (parse none "file:///a?speed=1e9&speed=0.5&mtu=1").1 = .ok (.file a) ∧
      a.speed = Text.Binary64.toFloat 0x3FE0000000000000) ∧
    (parse none "file:///a?mode=w&mode=x").1 = .error (.invalidArgument (.journalMode "x")) := by
  obtain ⟨hall, hbounds⟩ := parse_last_wins .standard
  refine ⟨?_, ?_, ?_⟩
  · have hpairs : twice.queryPairs = [("ttl", "1"), ("ttl", "2")] := by decide +kernel
    have hf := (hall none "udpm://239.255.76.67?ttl=1&ttl=2" twice rfl).1 ⟨4026485827⟩ rfl (by decide) (by decide)
    have haccepts : ∀ p ∈ twice.queryPairs, AcceptsMulticast p.1 p.2 := by
      rw [hpairs, List.forall_mem_cons, List.forall_mem_singleton]
      exact ⟨⟨1, Text.nat?_eq_some_iff.1 (by decide)⟩, ⟨2, Text.nat?_eq_some_iff.1 (by decide)⟩⟩
    obtain ⟨a, ha⟩ := hf.ok_iff.2 haccepts
    have httl : Settled (Text.IsNatural 255) 0 a.ttl (lastValue "ttl" twice.queryPairs) := (hf.tells a ha).ttl
    rw [hpairs] at httl
    have hread : some a.ttl = some 2 := (Text.nat?_eq_some_iff.2 (show Text.IsNatural 255 "2" a.ttl from httl)).symm
    exact ⟨a, ha, Option.some.inj hread, hbounds none _ a ha⟩
  · have hpairs : halved.queryPairs = [("speed", "1e9"), ("speed", "0.5"), ("mtu", "1")] := by decide +kernel
    have hpath : readPath .standard halved = .ok "/a".toUTF8 := by decide +kernel
    have hf := (hall none "file:///a?speed=1e9&speed=0.5&mtu=1" halved rfl).2 _ rfl hpath
    have hfast : Text.float? "1e9" = some (Text.Binary64.toFloat 0x41CDCD6500000000) := by decide +kernel
    have hhalf : Text.float? "0.5" = some (Text.Binary64.toFloat 0x3FE0000000000000) := by decide +kernel
    have haccepts : ∀ p ∈ halved.queryPairs, AcceptsFile p.1 p.2 := by
      rw [hpairs, List.forall_mem_cons, List.forall_mem_cons, List.forall_mem_singleton]
      exact ⟨⟨_, Text.float?_eq_some_iff.1 hfast⟩, ⟨_, Text.float?_eq_some_iff.1 hhalf⟩, trivial⟩
    obtain ⟨a, ha⟩ := hf.ok_iff.2 haccepts
    have hspeed : Settled Text.IsReal 0 a.speed (lastValue "speed" halved.queryPairs) := (hf.tells a ha).speed
    rw [hpairs] at hspeed
    have hread := Text.float?_eq_some_iff.2 (show Text.IsReal "0.5" a.speed from hspeed)
    exact ⟨a, ha, Option.some.inj (hread.symm.trans hhalf)⟩
  · have hpairs : spoiled.queryPairs = [("mode", "w"), ("mode", "x")] := by decide +kernel
    have hpath : readPath .standard spoiled = .ok "/a".toUTF8 := by decide +kernel
    have hf := (hall none "file:///a?mode=w&mode=x" spoiled rfl).2 _ rfl hpath
    refine hf.first_error [("mode", "w")] ("mode", "x") [] hpairs ?_ ?_
    · rw [List.forall_mem_singleton]
      exact ⟨.write, rfl⟩
    · rintro ⟨m, hm⟩
      cases m <;> exact absurd hm (by decide)

end PubSub.Address
