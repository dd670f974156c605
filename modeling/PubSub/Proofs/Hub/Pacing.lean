import PubSub.Proofs.Hub.Reeling
import PubSub.Proofs.Hub.Steering

/-!
# Signals of journal files

As long as a replay is open and its file stays as it is, the signal is up exactly while a wanted record is left: the one
that was read ahead, or one of those that a reader would still be given. The pace at which records are given out has no
say in it, nor has where the replay started. A file that is written has nothing to give, and its signal stays down.

* `Hub.Plays`: a transport replays a file, and its signal tells whether a record is left that is wanted.

Results:

* `Hub.Plays.perform`: calls that leave the file as it is keep the signal exact; `Hub.Plays.tell`: so does a change of
  what is wanted, when the transport is told.
* `Hub.Writes.perform`: a transport that writes a file goes on doing so.
* `Hub.file_signals`: what can be said of a transport that has been opened on a file.
-/

namespace PubSub

open Carriage
open Journal (Record)

variable {η : Type}

namespace Hub

/-- A transport replays a file with the content `f`. Its signal tells whether a record is left that is wanted, as far as
the transport has been told what is wanted. -/
structure Plays (t file : Nat) (f : ByteArray) (speed : Float) (told : String → Bool) (h : Hub η) : Prop where
  made : t < h.transports.size
  interest_lt : (h.transport t).interest < h.interests.size
  readable : (h.store.node file).read = .ok f
  replay : ∃ r, (h.transport t).line = .replay r ∧ r.Exact file f told ∧ r.speed = speed

variable {h g : Hub η} {t u file : Nat} {f : ByteArray} {speed : Float} {told : String → Bool}

/-! ## Others are called -/

theorem Plays.bypassed (hp : Plays t file f speed told h) (hg : Bypasses t h g) (hs : Unsteered h g)
    (readable : (g.store.node file).read = .ok f) : Plays t file f speed told g := by
  obtain ⟨r, hline, hr⟩ := hp.replay
  refine ⟨Nat.lt_of_lt_of_le hp.made hg.size, ?_, readable, r, ?_, hr⟩
  · rw [hs.serves t hp.made]
    exact Nat.lt_of_lt_of_le hp.interest_lt hs.interests
  · have hsupplied := hg.line
    rw [hline] at hsupplied
    rcases hsupplied with hsame | ⟨k, box, box', hbus, -⟩
    · exact hsame
    · cases hbus

/-- Exchanges, notices and time are nothing to a transport. -/
theorem Plays.of_tables (hp : Plays t file f speed told h) (htransports : g.transports = h.transports)
    (hinterests : g.interests = h.interests) (hstore : g.store = h.store) : Plays t file f speed told g :=
  hp.bypassed (bypasses_of_transports htransports (hstore ▸ .rfl)) (unsteered_of_tables hinterests htransports)
    (hstore ▸ hp.readable)

/-- A change of an interest of which nobody has been told yet. -/
theorem Plays.modifyInterest (hp : Plays t file f speed told h) (i : Nat) (change : Interest → Interest) :
    Plays t file f speed told (h.modifyInterest i change) :=
  ⟨hp.made, Nat.lt_of_lt_of_eq hp.interest_lt Array.size_modify.symm, hp.readable, hp.replay⟩

/-! ## The transport is called -/

/-- The transport has gone on in the replay, or looked ahead. -/
theorem Plays.setLine (hp : Plays t file f speed told h) {r : Replay} {now : String → Bool}
    (hr : r.Exact file f now ∧ r.speed = speed) (notices : List Notice) :
    Plays t file f speed now ((h.setLine t (.replay r)).report notices) := by
  have hs := unsteered_of_roster (roster_setLine h t (.replay r))
  refine ⟨Nat.lt_of_lt_of_le hp.made hs.transports, ?_, hp.readable, r, line_setLine hp.made _, hr⟩
  exact Nat.lt_of_lt_of_le (hs.serves t hp.made ▸ hp.interest_lt) hs.interests

theorem Plays.poll (hp : Plays t file f speed (h.wants t) h) (patient : Bool) :
    Plays t file f speed (h.wants t) (Act.poll t patient h).2 := by
  obtain ⟨r, hline, hr, hspeed⟩ := hp.replay
  have hread := Act.journalFile_of_reads hr.reads hp.readable
  obtain ⟨htaken, hsame⟩ := hr.take h.now
  rw [Act.poll, Act.get_bind_apply, hline]
  simp only [Act.bind_apply, hread, Act.modify_apply]
  rw [Act.snd_orHalt]
  exact hp.setLine ⟨htaken, hsame.trans hspeed⟩ _

theorem Plays.receive (hp : Plays t file f speed (h.wants t) h) (deadline : Option Nat) (still : Bool) :
    Plays t file f speed (h.wants t) (Act.receive t deadline still h).2 := by
  have hkept : Plays t file f speed (h.wants t) (Act.receive t deadline still h).2 ∧
      (Act.receive t deadline still h).2.wants t = h.wants t := by
    refine Act.receive_keeps (P := fun g => Plays t file f speed (h.wants t) g ∧ g.wants t = h.wants t)
      (fun g patient hg => ?_) (fun g now hg => ⟨hg.1.of_tables rfl rfl rfl, hg.2⟩) ⟨hp, rfl⟩ deadline still
    obtain ⟨hplays, hsame⟩ := hg
    rw [← hsame] at hplays ⊢
    exact ⟨hplays.poll patient, wants_of_roster (Act.poll_roster t patient g) t⟩
  exact hkept.1

/-- Files are nothing to those who are told of a change. -/
theorem store_interestChanged (h : Hub η) (u : Nat) : (Act.interestChanged u h).2.store = h.store := by
  rcases Act.interestChanged_frame u h with he | ⟨line, notices, -, he⟩ <;> rw [he]
  rfl

theorem store_tell (h : Hub η) (us : List Nat) : (h.tell us).store = h.store := by
  unfold Hub.tell
  induction us generalizing h with
  | nil => rfl
  | cons u us ih => exact (ih _).trans (store_interestChanged h u)

/-- A transport that is told of a change knows what is wanted. -/
theorem Plays.interestChanged (hp : Plays t file f speed told h) (u : Nat) :
    Plays t file f speed (if u = t then h.wants t else told) (Act.interestChanged u h).2 := by
  by_cases hu : u = t
  · subst hu
    obtain ⟨r, hline, hr, hspeed⟩ := hp.replay
    have hread := Act.journalFile_of_reads hr.reads hp.readable
    obtain ⟨hexact, hsame⟩ := Replay.exact_refresh hr.isOpen hr.reads hr.consistent f (h.wants u)
    rw [if_pos rfl, Act.interestChanged, Act.get_bind_apply, hline]
    simp only [Act.bind_apply, hread, Act.modify_apply]
    exact hp.setLine ⟨hexact, hsame.trans hspeed⟩ _
  · rw [if_neg hu]
    refine hp.bypassed (Act.interestChanged_bypasses hu) (unsteered_of_roster (Act.interestChanged_roster u h)) ?_
    rw [store_interestChanged]
    exact hp.readable

/-- When the transport is among those that are told, or there was nothing to tell it, it knows what is wanted. -/
theorem Plays.tell {us : List Nat} (hp : Plays t file f speed told h) (hknown : told = h.wants t ∨ t ∈ us) :
    Plays t file f speed ((h.tell us).wants t) (h.tell us) := by
  unfold Hub.tell
  induction us generalizing h told with
  | nil =>
    rcases hknown with rfl | ht
    · exact hp
    · cases ht
  | cons u us ih =>
    have hnext := hp.interestChanged u
    have hwants := wants_of_roster (Act.interestChanged_roster u h) t
    refine ih hnext ?_
    by_cases hu : u = t
    · rw [if_pos hu, hwants]
      exact Or.inl rfl
    · rw [if_neg hu, hwants]
      exact hknown.imp_right fun ht => (List.mem_cons.1 ht).resolve_left (Ne.symm hu)

theorem Plays.retune (hp : Plays t file f speed (h.wants t) h) {i : Nat} (change : Interest → Interest) {us : List Nat}
    (hall : ∀ t < h.transports.size, (h.transport t).interest = i → t ∈ us) :
    Plays t file f speed ((h.retune i change us).wants t) (h.retune i change us) := by
  refine (hp.modifyInterest i change).tell ?_
  by_cases hi : (h.transport t).interest = i
  · exact Or.inr (hall t hp.made hi)
  · refine Or.inl ?_
    rw [wants, wants, interest_modifyInterest, if_neg fun he => hi he.1.symm]
    rfl

/-- A call that changes no interest and does not close the transport. -/
theorem Plays.perform (hp : Plays t file f speed (h.wants t) h) {call : Call} (hsteers : call.steers = false)
    (hclose : call ≠ .close t) (readable : ((call.perform h).2.store.node file).read = .ok f) :
    Plays t file f speed ((call.perform h).2.wants t) (call.perform h).2 := by
  have hs : Unsteered h (call.perform h).2 := unsteered_perform hsteers
  rw [hs.wants hp.made hp.interest_lt]
  by_cases htarget : call.target = some t
  · obtain ⟨r, hline, -⟩ := hp.replay
    cases call with
    | send u channel payload =>
      cases htarget
      rw [Call.perform, snd_perform_bind, Act.send, Act.get_bind_apply, hline]
      exact hp
    | receive u wait still =>
      cases htarget
      rw [Call.perform, Act.get_bind_apply, snd_perform_bind]
      exact hp.receive _ still
    | interestChanged u =>
      cases htarget
      have htold := hp.interestChanged t
      rw [if_pos rfl] at htold
      rw [Call.perform, snd_perform_bind]
      exact htold
    | close u =>
      cases htarget
      exact absurd rfl hclose
    | release u =>
      cases htarget
      have hsame : h.releaseTransport t = h := by rw [releaseTransport, hline]
      show Plays t file f speed (h.wants t) (h.releaseTransport t)
      rw [hsame]
      exact hp
    | _ => cases htarget
  · exact hp.bypassed (bypasses_perform hp.made htarget) hs readable

/-- What is done meanwhile leaves the file as it is, and the replay open. -/
theorem Plays.run (hp : Plays t file f speed (h.wants t) h)
    (hg : Retuned (fun call => call.steers = false ∧ call ≠ .close t) (fun k => (k.store.node file).read = .ok f) h g) :
    Plays t file f speed (g.wants t) g := by
  induction hg with
  | start => exact hp
  | addExchange _ ih => exact ih.of_tables rfl rfl rfl
  | pass _ now ih => exact ih.of_tables rfl rfl rfl
  | call _ call allowed readable ih => exact ih.perform allowed.1 allowed.2 readable
  | retune _ i change us all _ ih => exact ih.retune change all

/-- The signal tells whether a record is left that is wanted, and, without pauses, whether there is a message to receive
without waiting. -/
theorem Plays.signal (hp : Plays t file f speed (h.wants t) h) :
    ∃ r rs, (h.transport t).line = .replay r ∧ r.journal.Gives h.store rs ∧
      (h.signal t).readable = (h.signal t).raised ∧
      ((h.signal t).raised = true ↔ ∃ x ∈ r.pending.toList ++ rs, h.wants t x.channel = true) ∧
      (¬ 0 < speed → ∀ still, (h.signal t).raised = true ↔
        ∃ m g, Act.receive t (some h.now) still h = (.ok (.message m), g)) := by
  obtain ⟨r, hline, hr, rfl⟩ := hp.replay
  obtain ⟨c, hc⟩ := hr.reads
  have hsignal : h.signal t = r.signal := congrArg Line.signal hline
  have hcursor : r.cursor = c := by rw [Replay.cursor, Journal.tell, hc]
  refine ⟨r, (Journal.scanAll f r.cursor).records, hline, ?_, ?_, ?_, fun unpaced still => ?_⟩
  · rw [hcursor]
    exact Journal.gives_scanAll hc hp.readable
  · rw [hsignal]
    exact hr.consistent
  · rw [hsignal, hr.raised, Replay.ahead, Replay.wanted, ne_eq, List.filter_eq_nil_iff]
    simp [Replay.rest]
  · have hruns : r.Runs file := ⟨hr.isOpen, unpaced, hr.reads, hr.consistent⟩
    have hready : h.Ready t := by
      rw [Ready, hline]
      exact Line.ready_replay hruns hp.readable hr.raised
    have hends : h.ends t = true := by rw [ends, source, hline, Line.source_replay hruns]; rfl
    have hup : (h.signal t).raised = true ↔ h.ahead t ≠ [] := hready.raised
    rw [hup]
    cases hahead : h.ahead t with
    | nil =>
      obtain ⟨g, hg, -⟩ := Act.receive_of_nil hready hahead (some h.now) still
      refine iff_of_false (fun hne => hne rfl) ?_
      rintro ⟨m, g', he⟩
      rw [hg, drought, hends] at he
      cases he
    | cons m ms =>
      obtain ⟨g, hg, -⟩ := Act.receive_of_cons hready hahead (some h.now) still
      exact iff_of_true (List.cons_ne_nil _ _) ⟨m, g, hg⟩

/-! ## Files that are written -/

/-- A transport writes a file. -/
structure Writes (t : Nat) (h : Hub η) : Prop where
  made : t < h.transports.size
  recorder : ∃ j closed, (h.transport t).line = .recorder j closed

theorem Writes.bypassed (hw : Writes t h) (hg : Bypasses t h g) : Writes t g := by
  obtain ⟨j, closed, hline⟩ := hw.recorder
  refine ⟨Nat.lt_of_lt_of_le hw.made hg.size, j, closed, ?_⟩
  have hsupplied := hg.line
  rw [hline] at hsupplied
  rcases hsupplied with hsame | ⟨k, box, box', hbus, -⟩
  · exact hsame
  · cases hbus

theorem writes_setLine (ht : t < h.transports.size) (j : Journal) (closed : Bool) :
    Writes t (h.setLine t (.recorder j closed)) :=
  ⟨Nat.lt_of_lt_of_eq ht (size_setLine ..).symm, j, closed, line_setLine ht _⟩

theorem Writes.send (hw : Writes t h) (channel : String) (payload : ByteArray) :
    Writes t (Act.send t channel payload h).2 := by
  obtain ⟨j, closed, hline⟩ := hw.recorder
  rw [Act.send, Act.get_bind_apply, hline]
  simp only [Act.bind_apply, Act.ite_apply]
  split
  · exact hw
  · obtain ⟨store, j', hsend, -, -⟩ := Act.sendToJournal_snd t j channel payload h
    rw [hsend]
    exact writes_setLine (h := { (h.readClock t).1 with store }) (Nat.lt_of_lt_of_eq hw.made (size_readClock h t).symm)
      j' false

/-- Nothing makes a transport do anything else but write its file. -/
theorem Writes.perform (hw : Writes t h) (call : Call) : Writes t (call.perform h).2 := by
  by_cases htarget : call.target = some t
  · obtain ⟨j, closed, hline⟩ := hw.recorder
    cases call with
    | send u channel payload =>
      cases htarget
      rw [Call.perform, snd_perform_bind]
      exact hw.send channel payload
    | receive u wait still =>
      cases htarget
      have hpoll : ∀ patient, Act.poll t patient h = (.error (.failed .writeOnly), h) := fun patient => by
        rw [Act.poll, Act.get_bind_apply, hline]
        rfl
      rw [Call.perform, Act.get_bind_apply, snd_perform_bind, Act.receive, Act.bind_error (hpoll _)]
      exact hw
    | interestChanged u =>
      cases htarget
      rw [Call.perform, snd_perform_bind, Act.interestChanged, Act.get_bind_apply, hline]
      exact hw
    | close u =>
      cases htarget
      show Writes t (h.closeTransport t)
      simp only [closeTransport, hline]
      have hflushed := writes_setLine (h := { h with store := (j.flush h.store).2.2 }) hw.made
        (j.flush h.store).2.1 true
      exact hflushed.bypassed (Bypasses.rfl.report _)
    | release u =>
      cases htarget
      show Writes t (h.releaseTransport t)
      rw [releaseTransport, hline]
      exact hw.bypassed (bypasses_of_transports rfl (j.later_release h.store))
    | _ => cases htarget
  · exact hw.bypassed (bypasses_perform hw.made htarget)

theorem Writes.interestChanged (hw : Writes t h) (u : Nat) : Writes t (Act.interestChanged u h).2 := by
  have hcalled := hw.perform (.interestChanged u)
  rwa [Call.perform, snd_perform_bind] at hcalled

theorem Writes.run {may : Call → Prop} {meanwhile : Hub η → Prop} (hw : Writes t h) (hg : Retuned may meanwhile h g) :
    Writes t g := by
  induction hg with
  | start => exact hw
  | addExchange _ ih => exact ih.bypassed (bypasses_of_transports rfl .rfl)
  | pass _ now ih => exact ih.bypassed (bypasses_of_transports rfl .rfl)
  | call _ call _ _ ih => exact ih.perform call
  | @retune h _ i change us _ _ ih =>
    have hchanged : Writes t (h.modifyInterest i change) := ih.bypassed (bypasses_of_transports rfl .rfl)
    unfold Hub.retune Hub.tell
    generalize h.modifyInterest i change = k at hchanged
    clear * - hchanged
    induction us generalizing k with
    | nil => exact hchanged
    | cons u us ih => exact ih _ (hchanged.interestChanged u)

/-! ## Opening -/

variable {a : FileAddress} {i exchange : Nat} {clock : Clock}

/-- A transport is made that knows what is wanted. -/
theorem plays_addTransport {tr : Transport} {r : Replay} (hline : tr.line = .replay r)
    (hi : tr.interest < h.interests.size) (readable : (h.store.node file).read = .ok f)
    (hr : r.Exact file f (h.interest tr.interest).wants ∧ r.speed = speed) :
    Plays h.transports.size file f speed ((h.addTransport tr).1.wants h.transports.size) (h.addTransport tr).1 := by
  have hnew : (h.addTransport tr).1.transport h.transports.size = tr := (transport_addTransport ..).trans (if_pos rfl)
  refine ⟨(size_addTransport h tr).symm ▸ Nat.lt_succ_self _, ?_, readable, r, ?_, ?_⟩
  · rw [hnew]
    exact hi
  · rw [hnew]
    exact hline
  · rw [wants, hnew]
    exact hr

theorem plays_openTransport (hmode : a.mode = .read) (hi : i < h.interests.size)
    (hopen : Act.openTransport (.file a) exchange i clock h = (.ok t, g)) :
    ∃ file f, h.store.openRead a.path = .ok file ∧ (h.store.node file).read = .ok f ∧
      Plays t file f a.speed (g.wants t) g := by
  rw [Act.openTransport] at hopen
  rcases Act.openFile_reading h hmode i clock with
    ⟨file, c, f, started, notices, hfile, hread, -, -, -, he⟩ | ⟨-, e, notices, he⟩ <;> rw [he] at hopen <;> cases hopen
  have hexact := Replay.exact_refresh (r := { journal := ⟨a.path, .read, .reading file c⟩, speed := a.speed }) rfl
    ⟨c, rfl⟩ Signal.consistent_new f (h.interest i).wants
  exact ⟨file, f, hfile, hread, plays_addTransport (h := { h with notices }) rfl hi hread hexact⟩

theorem writes_openTransport (hmode : a.mode ≠ .read)
    (hopen : Act.openTransport (.file a) exchange i clock h = (.ok t, g)) : Writes t g := by
  rw [Act.openTransport, Act.openFile_recorder hmode, Act.bind_apply, Act.openJournal_apply] at hopen
  cases hj : (Journal.openFile h.store a.path a.mode).1 with
  | error e =>
    rw [hj] at hopen
    cases hopen
  | ok j =>
    rw [hj] at hopen
    cases hopen
    refine ⟨?_, j, false, ?_⟩
    · exact Nat.lt_of_lt_of_eq (Nat.lt_succ_self _) (size_addTransport _ _).symm
    · exact congrArg Transport.line ((transport_addTransport ..).trans (if_pos rfl))

/-- A transport has been opened on a file. If it reads the file, then, as long as the file stays as it is and the
transport is not closed, whatever else is done, where it is told of each change of what is wanted, its signal tells
whether a wanted record is left: the one that was read ahead, if there is one, and those that its journal would still
give before it first says that there is nothing. Without pauses that is whether there is a message to receive without
waiting. If it writes the file, its signal stays down whatever is done. -/
theorem file_signals (hi : i < h.interests.size) (hopen : Act.openTransport (.file a) exchange i clock h = (.ok t, g)) :
    (a.mode = .read → ∃ file f, h.store.openRead a.path = .ok file ∧ (h.store.node file).read = .ok f ∧
      ∀ k, Retuned (fun call => call.steers = false ∧ call ≠ .close t) (fun k => (k.store.node file).read = .ok f) g k →
        ∃ r rs, (k.transport t).line = .replay r ∧ r.journal.Gives k.store rs ∧
          (k.signal t).readable = (k.signal t).raised ∧
          ((k.signal t).raised = true ↔ ∃ x ∈ r.pending.toList ++ rs, k.wants t x.channel = true) ∧
          (¬ 0 < a.speed → ∀ still, (k.signal t).raised = true ↔
            ∃ m k', Act.receive t (some k.now) still k = (.ok (.message m), k'))) ∧
      (a.mode ≠ .read → ∀ k, Retuned (fun _ => True) (fun _ => True) g k →
        (k.signal t).raised = false ∧ (k.signal t).readable = false) := by
  refine ⟨fun hmode => ?_, fun hmode k hk => ?_⟩
  · obtain ⟨file, f, hfile, hread, hplays⟩ := plays_openTransport hmode hi hopen
    exact ⟨file, f, hfile, hread, fun k hk => (hplays.run hk).signal⟩
  · obtain ⟨j, closed, hline⟩ := ((writes_openTransport hmode hopen).run hk).recorder
    rw [signal, hline]
    exact ⟨rfl, rfl⟩

/-- When everything in a file comes to be wanted, and the transport is told, there is a message to receive. -/
theorem file_signals_shelf :
    ∃ g, Act.openTransport (.file { path := [0x61].toByteArray }) 0 0 {} shelf = (.ok 0, g) ∧
      ∃ m k, Act.receive 0 (some 0) false (g.retune 0 (fun _ => .everything) [0]) = (.ok (.message m), k) := by
  obtain ⟨g, hopen⟩ := openTransport_shelf
  refine ⟨g, hopen, ?_⟩
  obtain ⟨file, f, -, hread, hsignals⟩ := (file_signals Nat.zero_lt_one hopen).1 rfl
  have hg : g = (Act.openTransport (.file { path := [0x61].toByteArray }) 0 0 {} shelf).2 := by rw [hopen]
  have hsize : g.transports.size = 1 := by
    rw [hg]
    decide +kernel
  have hall : ∀ t < g.transports.size, (g.transport t).interest = 0 → t ∈ [0] := fun t ht _ => by
    rw [List.mem_singleton]
    omega
  have hstore : (g.retune 0 (fun _ => .everything) [0]).store = shelf.store := by
    have hopened := Act.openFile_reading shelf (a := { path := [0x61].toByteArray }) rfl 0 {}
    rw [Hub.retune, store_tell]
    show g.store = shelf.store
    rw [hg, Act.openTransport]
    rcases hopened with ⟨file, c, f, started, notices, -, -, -, -, -, he⟩ | ⟨-, e, notices, he⟩
    · rw [he]
      rfl
    · rw [he]
  have hnow : (g.retune 0 (fun _ => .everything) [0]).now = 0 := by
    rw [hg]
    decide +kernel
  have hup : ((g.retune 0 (fun _ => .everything) [0]).signal 0).raised = true := by
    rw [hg]
    decide +kernel
  obtain ⟨r, rs, -, -, -, -, hreceive⟩ := hsignals _
    (Retuned.start.retune 0 (fun _ => .everything) [0] hall (by rw [hstore]; exact hread))
  rw [hnow] at hreceive
  exact (hreceive (by decide) false).1 hup

end Hub
end PubSub
