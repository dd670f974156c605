import PubSub.Proofs.Hub.Lines
import PubSub.Proofs.Hub.Routing

/-!
# How many messages a transport can give

A dispatch asks its transport for messages until it has no more, and the number of questions is bounded beforehand by
the supply of the transport. Whatever the transport is, the bound is never reached: each message that is given out is
one less of those that the transport can still give, and to begin with these are no more than the supply.

* `Line.stock`, `Hub.stock`: how many messages a line, or a transport, can still give.

Results:

* `Act.stock_le_supply`: they are no more than the supply.
* `Act.stock_receive`: a message that is received is one of them.
-/

namespace PubSub

variable {η : Type}

namespace Mailbox

/-- What is taken out of a mailbox, and what is thrown away, does not wait any more. -/
theorem size_takeWanted (wants : String → Bool) (q : Backlog) :
    (takeWanted wants q).2.1.size + (takeWanted wants q).1.toList.length ≤ q.size := by
  fun_induction takeWanted wants q with
  | case1 q hnone => exact Nat.le_refl _
  | case2 q m rest hp hw =>
    have hsize := Backlog.size_of_pop hp
    exact Nat.le_of_eq hsize.symm
  | case3 q m rest hp hw r ih =>
    have hsize := Backlog.size_of_pop hp
    exact Nat.le_trans ih (by omega)

end Mailbox

/-- The message of an answer, if it is one. -/
def Offer.given : Except Error Offer → List Message
  | .ok (.message m) => [m]
  | _ => []

namespace Mailbox

theorem stock_take (box : Mailbox) (wants : String → Bool) :
    (box.take wants).2.1.waiting.size + (Offer.given (box.take wants).1).length ≤ box.waiting.size := by
  have hsize := size_takeWanted wants box.waiting
  cases hc : box.closed with
  | true =>
    rw [take, if_pos hc]
    exact Nat.le_refl _
  | false =>
    rw [take_of_open hc, waiting_settle]
    cases hm : (takeWanted wants box.waiting).1 with
    | none =>
      rw [hm] at hsize
      exact hsize
    | some m =>
      rw [hm] at hsize
      exact hsize

end Mailbox

namespace Replay

variable {r : Replay} {file : Nat} {f : ByteArray} {wants : String → Bool}

theorem length_skip_le (wants : String → Bool) (rs : List Journal.Record) : (skip wants rs).length ≤ rs.length :=
  (List.dropWhile_sublist _).length_le

/-- A replay gives out, or goes past, records that it has not gone past before. -/
theorem Reads.length_rest_take (h : r.Reads file) (f : ByteArray) (wants : String → Bool) (now : Nat) :
    ((r.take f wants now).2.1.rest f).length + (Offer.given (r.take f wants now).1).length ≤ (r.rest f).length := by
  obtain ⟨hrest, -⟩ := h.rest_advance f wants
  have hadvance := h.advance f wants
  have hless := length_skip_le wants (r.rest f)
  rw [← hrest] at hless
  unfold Replay.take
  split
  · exact Nat.le_refl _
  · simp only
    generalize (r.advance f wants).1 = q at hadvance hless ⊢
    split
    · exact hless
    · rename_i record hpending
      have hdue : (q.due now record.timestamp).2.Reads file ∧ (q.due now record.timestamp).2.cursor = q.cursor ∧
          (q.due now record.timestamp).2.rest f = q.rest f := by
        unfold Replay.due
        split <;> exact ⟨hadvance, rfl, rfl⟩
      generalize (q.due now record.timestamp).2 = d at hdue ⊢
      obtain ⟨hreads, hcursor, hsame⟩ := hdue
      split
      · rw [hsame]
        exact hless
      · have hread : Reads { d with pending := none } file := hreads
        have hbehind := (hread.rest_readAhead f wants).1
        have hskip := length_skip_le wants (Journal.scanAll f q.cursor).records
        have hlength : (q.rest f).length = (Journal.scanAll f q.cursor).records.length + 1 := by
          rw [rest, hpending, List.length_append]
          exact Nat.add_comm ..
        show (({ d with pending := none }.readAhead f wants).1.rest f).length + 1 ≤ (r.rest f).length
        rw [hbehind]
        show (skip wants (Journal.scanAll f d.cursor).records).length + 1 ≤ (r.rest f).length
        rw [hcursor]
        omega

end Replay

/-! ## Lines -/

/-- How many messages a line can still give. -/
def Line.stock (store : Store) : Line → Nat
  | .bus _ box => box.waiting.size
  | .multicast _ _ _ box => box.waiting.size
  | .recorder .. => 0
  | .replay r => ((Line.replay r).rest store).length
  | .script s => s.items.length

/-- How many messages a transport can still give. -/
def Hub.stock (h : Hub η) (t : Nat) : Nat := (h.transport t).line.stock h.store

theorem Script.stock_take (s : Script) (patient : Bool) :
    (s.take patient).2.items.length + (Offer.given (s.take patient).1).length ≤ s.items.length := by
  obtain ⟨items, refusal, calls⟩ := s
  rcases items with - | ⟨m | _ | e, items⟩
  · cases patient <;> exact Nat.le_refl _
  · exact Nat.le_refl _
  · exact Nat.le_succ _
  · exact Nat.le_succ _

namespace Hub

variable {h g : Hub η} {t : Nat} {line : Line}

/-- A transport that does not exist has nothing to give. -/
theorem stock_setLine_le (h : Hub η) (t : Nat) (line : Line) : (h.setLine t line).stock t ≤ line.stock h.store := by
  rw [stock, transport_setLine]
  by_cases ht : t < h.transports.size
  · rw [if_pos ⟨rfl, ht⟩]
    exact Nat.le_refl _
  · rw [if_neg fun hc => ht hc.2, transport_of_size_le (Nat.not_lt.1 ht)]
    exact Nat.zero_le _

/-- What a transport has to give it can give. -/
theorem length_ahead_le_stock (hl : h.Live t) : (h.ahead t).length ≤ h.stock t := by
  rw [Live] at hl
  rw [ahead, stock]
  generalize (h.transport t).line = line at hl ⊢
  cases hl with
  | bus isOpen unbounded alert => exact Nat.le_of_eq (Backlog.length_toList _)
  | replay runs readable =>
    rw [Line.ahead_replay runs readable, Line.stock, Line.rest_replay runs readable, List.length_map, List.length_map]
    exact List.length_filter_le ..

theorem stock_of_line (hline : (h.transport t).line = line) : h.stock t = line.stock h.store := by
  rw [stock, hline]

end Hub

namespace Act

open Hub

variable {h g : Hub η} {t : Nat}

/-! ## Asking and receiving -/

/-- Which message an answer gives. -/
def received : Except Halt Reception → List Message
  | .ok (.message m) => [m]
  | _ => []

/-- The same of an answer to a question that may have to be put again. -/
def offered : Except Halt Offer → List Message
  | .ok (.message m) => [m]
  | _ => []

theorem offered_orHalt (r : Except Error Offer) (h : Hub η) : offered (orHalt r h).1 = Offer.given r := by
  cases r with
  | error e => rfl
  | ok offer => cases offer <;> rfl

/-- A question costs a transport the message that it gives. -/
theorem stock_poll (t : Nat) (patient : Bool) (h : Hub η) :
    (poll t patient h).2.stock t + (offered (poll t patient h).1).length ≤ h.stock t := by
  rw [poll, get_bind_apply]
  cases hline : (h.transport t).line with
  | bus k box =>
    simp only [bind_apply, modify_apply]
    rw [snd_orHalt, offered_orHalt, stock_of_line hline]
    exact Nat.le_trans (Nat.add_le_add_right (stock_setLine_le h t _) _) (box.stock_take (h.wants t))
  | multicast s sequence stopped box =>
    simp only [bind_apply, modify_apply]
    rw [snd_orHalt, offered_orHalt, stock_of_line hline]
    exact Nat.le_trans (Nat.add_le_add_right (stock_setLine_le h t _) _) (box.stock_take (h.wants t))
  | recorder j closed => exact Nat.le_refl _
  | script s =>
    simp only [bind_apply, modify_apply]
    rw [snd_orHalt, offered_orHalt, stock_of_line hline]
    exact Nat.le_trans (Nat.add_le_add_right (stock_setLine_le h t _) _) (s.stock_take patient)
  | replay r =>
    simp only [bind_apply]
    cases huse : r.journal.use with
    | writing w =>
      simp only [journalFile, huse, fail_apply]
      exact Nat.le_refl _
    | reading file c =>
      have hreads : r.Reads file := ⟨c, huse⟩
      cases hread : (h.store.node file).read with
      | error e =>
        simp only [journalFile, huse, readFile, bind_apply, get_apply, hread, Except.mapError, orHalt]
        exact Nat.le_refl _
      | ok f =>
        have hstock : ∀ {q : Replay}, q.Reads file → (Line.replay q).stock h.store = (q.rest f).length := by
          rintro q ⟨d, hq⟩
          simp only [Line.stock, Line.rest, hq, hread, List.length_map]
        simp only [journalFile_of_reads hreads hread, modify_apply]
        rw [snd_orHalt, offered_orHalt, stock_of_line hline, hstock hreads]
        refine Nat.le_trans (Nat.add_le_add_right (stock_setLine_le h t _) _) ?_
        rw [hstock (hreads.take f (h.wants t) h.now)]
        exact hreads.length_rest_take f (h.wants t) h.now

/-- A message that is received is one less that a transport can give. -/
theorem stock_receive (t : Nat) (deadline : Option Nat) (still : Bool) (h : Hub η) :
    (receive t deadline still h).2.stock t + (received (receive t deadline still h).1).length ≤ h.stock t := by
  have hfirst := stock_poll t deadline.isNone h
  simp only [receive, bind_apply]
  generalize poll t deadline.isNone h = r at hfirst
  obtain ⟨e | offer, k⟩ := r
  · exact hfirst
  · cases offer with
    | message m => exact hfirst
    | nothing => exact hfirst
    | later due =>
      have hk : k.stock t ≤ h.stock t := hfirst
      simp only [ite_apply]
      split
      · exact hk
      · cases due with
        | none => cases deadline <;> exact hk
        | some time =>
          simp only [ite_apply]
          split
          · exact hk
          · have hsecond := stock_poll t deadline.isNone { k with now := max k.now time }
            simp only [bind_apply, sleepUntil, modify_apply]
            generalize poll t deadline.isNone { k with now := max k.now time } = r at hsecond
            obtain ⟨e | offer, k'⟩ := r
            · exact Nat.le_trans hsecond hk
            · cases offer <;> exact Nat.le_trans hsecond hk

/-- So a transport that has given a message can give one less. -/
theorem stock_lt_of_receive {deadline : Option Nat} {still : Bool} {m : Message}
    (hreceive : receive t deadline still h = (.ok (.message m), g)) : g.stock t < h.stock t := by
  have hstock := stock_receive t deadline still h
  rw [hreceive] at hstock
  exact hstock

/-- Routing does not ask the transport. -/
theorem stock_route (b : Nat) (m : Message) (T : List Nat) (h : Hub η) (t : Nat) :
    (route b m T h).2.stock t = h.stock t := by
  obtain ⟨subscriptions, notices, hframe⟩ := route_frame b m T h
  rw [hframe]
  rfl

/-! ## The supply -/

/-- A transport has a supply, looking for which changes nothing, and it can give no more messages than that. -/
theorem stock_le_supply (t : Nat) (h : Hub η) : ∃ n, supply t h = (.ok n, h) ∧ h.stock t ≤ n := by
  simp only [supply, bind_apply, get_apply, stock]
  cases (h.transport t).line with
  | bus k box => exact ⟨_, rfl, Nat.le_refl _⟩
  | multicast s sequence stopped box => exact ⟨_, rfl, Nat.le_refl _⟩
  | recorder j closed => exact ⟨_, rfl, Nat.le_refl _⟩
  | script s => exact ⟨_, rfl, Nat.le_refl _⟩
  | replay r =>
    simp only [Line.stock, Line.rest]
    cases r.journal.use with
    | writing w => exact ⟨_, rfl, Nat.le_refl _⟩
    | reading file c =>
      refine ⟨_, rfl, ?_⟩
      cases hread : (h.store.node file).read with
      | error e =>
        simp only [hread]
        exact Nat.zero_le _
      | ok f =>
        have hrecords := Journal.length_records_le f r.cursor
        have hpending : r.pending.toList.length ≤ 1 := by cases r.pending <;> simp
        have hsize : f.size ≤ (h.store.node file).size := Node.size_of_read hread
        simp only [hread]
        rw [List.length_map, Replay.rest, List.length_append]
        omega

end Act
end PubSub
