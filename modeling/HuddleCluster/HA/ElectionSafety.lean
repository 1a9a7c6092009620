import HuddleCluster.Lib.Quorum
import HuddleCluster.HA.System

set_option autoImplicit false

namespace HuddleCluster.HA

variable {ι : Type} [Fintype ι] [DecidableEq ι]

theorem membership_size (m : Membership ι) (i : ι) : (m.settings i).peers.length + 1 = Fintype.card ι := by
  have addresses : (m.settings i).peers.toFinset = (Finset.univ.erase i).image m.url := by
    ext address
    simp only [List.mem_toFinset, m.others, Finset.mem_image, Finset.mem_erase, Finset.mem_univ, and_true]
  rw [← List.toFinset_card_of_nodup (m.distinct i), addresses, Finset.card_image_of_injective _ m.urls]
  exact Finset.card_erase_add_one (Finset.mem_univ i)

theorem needed_majority (m : Membership ι) (i : ι) (voters : Finset ι) (enough : (m.settings i).needed ≤ voters.card) :
    Quorum.Majority voters := by
  have size := membership_size m i
  simp only [Settings.needed] at enough
  simp only [Quorum.Majority]
  omega

theorem url_not_own_peer (m : Membership ι) (i : ι) : m.url i ∉ (m.settings i).peers := by
  rw [m.others]
  rintro ⟨j, other, same⟩
  exact other (m.urls same)

def Grown (before after : ι → Process) : Prop := ∀ i, (before i).grants ⊆ (after i).grants

-- The votes a campaign has counted are those of as many different nodes, none
-- of which it has still to ask.
def Backed (m : Membership ι) (nodes : ι → Process) (i : ι) (term : Int) (votes : Nat) (left : List String) : Prop :=
  left <:+ (m.settings i).peers ∧ ∃ voters : Finset ι, voters.card = votes ∧
    ∀ j ∈ voters, m.url j ∉ left ∧ (term, (m.settings i).id) ∈ (nodes j).grants

structure Safe (m : Membership ι) (c : System ι) : Prop where
  honest : ∀ i, Honest (m.settings i) (c.nodes i)
  granted : ∀ call ∈ c.calls, ∀ reply ∈ call.reply, reply.voteGranted = true →
    (call.term, (m.settings call.caller).id) ∈ (c.nodes call.callee).grants
  asking : ∀ i k, c.waiting i = some k → ∃ call, c.calls[k]? = some call ∧ call.caller = i ∧
    ∃ votes left, (c.nodes i).election = .campaign call.term votes (m.url call.callee :: left)
  counted : ∀ i term votes left, (c.nodes i).election = .campaign term votes left → Backed m c.nodes i term votes left
  elected : ∀ i term, (i, term) ∈ c.elected → ∃ voters : Finset ι, Quorum.Majority voters ∧
    ∀ j ∈ voters, (term, (m.settings i).id) ∈ (c.nodes j).grants
  leading : ∀ i, (c.nodes i).node.role = .leader → (i, (c.nodes i).node.term) ∈ c.elected

omit [Fintype ι] in
theorem grown_update (nodes : ι → Process) (i : ι) (q : Process) (grow : (nodes i).grants ⊆ q.grants) :
    Grown nodes (Function.update nodes i q) := by
  intro j
  by_cases here : j = i
  · subst here
    rwa [Function.update_self]
  · rw [Function.update_of_ne here]
    exact List.Subset.refl _

theorem backed_grown (m : Membership ι) (before after : ι → Process) (i : ι) (term : Int) (votes : Nat) (left : List String)
    (grown : Grown before after) (backed : Backed m before i term votes left) : Backed m after i term votes left := by
  obtain ⟨suffix, voters, count, gave⟩ := backed
  exact ⟨suffix, voters, count, fun j member => ⟨(gave j member).1, grown j (gave j member).2⟩⟩

theorem elected_grown (m : Membership ι) (before after : ι → Process) (i : ι) (term : Int) (grown : Grown before after)
    (majority : ∃ voters : Finset ι, Quorum.Majority voters ∧ ∀ j ∈ voters, (term, (m.settings i).id) ∈ (before j).grants) :
    ∃ voters : Finset ι, Quorum.Majority voters ∧ ∀ j ∈ voters, (term, (m.settings i).id) ∈ (after j).grants := by
  obtain ⟨voters, majority, gave⟩ := majority
  exact ⟨voters, majority, fun j member => grown j (gave j member)⟩

omit [Fintype ι] in
theorem update_property (nodes : ι → Process) (i : ι) (q : Process) (property : ι → Process → Prop)
    (others : ∀ j, property j (nodes j)) (here : property i q) : ∀ j, property j (Function.update nodes i q j) := by
  intro j
  by_cases same : j = i
  · subst same
    rwa [Function.update_self]
  · rw [Function.update_of_ne same]
    exact others j

theorem start_safe (m : Membership ι) (boots : ι → ℚ × Timing) : Safe m (.start m boots) := by
  refine ⟨fun i => fresh_honest _ _ _, ?_, ?_, ?_, ?_, ?_⟩
  · intro call member
    simp [System.start] at member
  · intro i k waiting
    simp [System.start] at waiting
  · intro i term votes left campaign
    simp [System.start, Process.fresh] at campaign
  · intro i term member
    simp [System.start] at member
  · intro i leads
    simp [System.start, Process.fresh, Node.boot] at leads

theorem ask_safe (m : Membership ι) (c d : System ι) (caller callee : ι) (safe : Safe m c)
    (taken : c.ask m caller callee = some d) : Safe m d := by
  simp only [System.ask] at taken
  split at taken
  · rename_i term votes peer left campaign free
    split at taken
    · rename_i named
      cases taken
      refine ⟨safe.honest, ?_, ?_, safe.counted, safe.elected, safe.leading⟩
      · intro call member reply replied
        rcases List.mem_append.mp member with old | new
        · exact safe.granted call old reply replied
        · rw [List.mem_singleton] at new
          rw [new] at replied
          cases replied
      · intro i k waiting
        by_cases here : i = caller
        · subst here
          simp only [Function.update_self, Option.some.injEq] at waiting
          subst waiting
          exact ⟨⟨i, callee, term, none⟩, by simp, rfl, votes, left, by rw [named]; exact campaign⟩
        · simp only [Function.update_of_ne here] at waiting
          obtain ⟨call, found, rest⟩ := safe.asking i k waiting
          have bound := (List.getElem?_eq_some_iff.mp found).1
          exact ⟨call, by rw [List.getElem?_append_left bound]; exact found, rest⟩
    · cases taken
  · cases taken

theorem deliver_safe (m : Membership ι) (c d : System ι) (k : Nat) (timing : Timing) (safe : Safe m c)
    (taken : c.deliver m k timing = some d) : Safe m d := by
  simp only [System.deliver] at taken
  split at taken
  · rename_i caller callee term found
    cases taken
    have change := vote_request_change (m.settings callee) (c.nodes callee) (m.settings caller).id term timing
    have grown := grown_update c.nodes callee _ (grants_grow _ _ _ change)
    have election : ∀ i, (Function.update c.nodes callee
        ((c.nodes callee).voteRequest (m.settings callee) (m.settings caller).id term timing).2 i).election =
          (c.nodes i).election := by
      intro i
      by_cases here : i = callee
      · subst here
        rw [Function.update_self]
        rfl
      · rw [Function.update_of_ne here]
    refine ⟨?_, ?_, ?_, ?_, ?_, ?_⟩
    · exact update_property c.nodes callee _ (fun i p => Honest (m.settings i) p) safe.honest
        (change_honest _ _ _ (safe.honest callee) change)
    · intro call member reply replied granted
      rcases List.mem_or_eq_of_mem_set member with old | new
      · exact grown call.callee (safe.granted call old reply replied granted)
      · subst new
        cases replied
        simp only [Function.update_self]
        rcases vote_request_cases (m.settings callee) timing (m.settings caller).id term (c.nodes callee).node with
          ⟨refused, _⟩ | ⟨yes, written, _⟩
        · simp only [Process.voteRequest] at granted
          rw [refused] at granted
          cases granted
        · simp [Process.voteRequest, yes, written.term]
    · intro i j waiting
      obtain ⟨call, place, from_, campaign⟩ := safe.asking i j waiting
      by_cases here : j = k
      · subst here
        rw [place] at found
        cases found
        have bound := (List.getElem?_eq_some_iff.mp place).1
        refine ⟨_, List.getElem?_set_self bound, from_, ?_⟩
        simpa only [election] using campaign
      · refine ⟨call, by rw [List.getElem?_set_ne (Ne.symm here)]; exact place, from_, ?_⟩
        simpa only [election] using campaign
    · intro i campaignTerm votes left campaign
      simp only [election] at campaign
      exact backed_grown m c.nodes _ i campaignTerm votes left grown (safe.counted i campaignTerm votes left campaign)
    · exact fun i other member => elected_grown m c.nodes _ i other grown (safe.elected i other member)
    · refine update_property c.nodes callee _ (fun i p => p.node.role = .leader → (i, p.node.term) ∈ c.elected) safe.leading ?_
      intro leads
      have taken : (c.nodes callee).next (m.settings callee) (.voteRequest (m.settings caller).id term timing) = some _ := rfl
      obtain ⟨same, led | elects⟩ := leader_before _ _ _ _ taken leads
      · rw [same]
        exact safe.leading callee led
      · cases elects
  · cases taken

theorem backed_next (m : Membership ι) (nodes : ι → Process) (i : ι) (term : Int) (votes : Nat) (peer : String)
    (left : List String) (backed : Backed m nodes i term votes (peer :: left)) : Backed m nodes i term votes left := by
  obtain ⟨suffix, voters, count, gave⟩ := backed
  refine ⟨(List.suffix_cons peer left).trans suffix, voters, count, fun j member => ⟨?_, (gave j member).2⟩⟩
  exact fun asked => (gave j member).1 (List.mem_cons_of_mem peer asked)

theorem backed_vote (m : Membership ι) (nodes : ι → Process) (i callee : ι) (term : Int) (votes : Nat) (left : List String)
    (backed : Backed m nodes i term votes (m.url callee :: left)) (gave : (term, (m.settings i).id) ∈ (nodes callee).grants) :
    Backed m nodes i term (votes + 1) left := by
  obtain ⟨suffix, voters, count, before⟩ := backed
  have distinct := (m.distinct i).sublist suffix.sublist
  rw [List.nodup_cons] at distinct
  have new : callee ∉ voters := fun member => (before callee member).1 (by simp)
  refine ⟨(List.suffix_cons _ left).trans suffix, insert callee voters, by rw [Finset.card_insert_of_notMem new, count], ?_⟩
  intro j member
  rcases Finset.mem_insert.mp member with rfl | old
  · exact ⟨distinct.1, gave⟩
  · exact ⟨fun asked => (before j old).1 (List.mem_cons_of_mem _ asked), (before j old).2⟩

theorem receive_safe (m : Membership ι) (c d : System ι) (caller : ι) (reply : Option VoteReply) (timing : Timing)
    (safe : Safe m c) (guarded : (c.nodes caller).Guarded (.voteReply reply timing))
    (own : ∀ vote ∈ reply, c.replyFor caller = some vote) (taken : c.receive m caller reply timing = some d) : Safe m d := by
  simp only [System.receive, Option.map_eq_some_iff] at taken
  obtain ⟨q, answered, rfl⟩ := taken
  have change := vote_reply_change (m.settings caller) (c.nodes caller) q reply timing guarded answered
  have grown := grown_update c.nodes caller q (grants_grow _ _ _ change)
  refine ⟨?_, ?_, ?_, ?_, ?_, ?_⟩
  · exact update_property c.nodes caller q (fun i p => Honest (m.settings i) p) safe.honest
      (change_honest _ _ _ (safe.honest caller) change)
  · exact fun call member vote replied granted => grown call.callee (safe.granted call member vote replied granted)
  · intro i k waiting
    by_cases here : i = caller
    · subst here
      simp at waiting
    · simp only [Function.update_of_ne here] at waiting ⊢
      exact safe.asking i k waiting
  · intro i campaignTerm count left campaign
    by_cases here : i = caller
    · subst here
      simp only [Function.update_self] at campaign
      refine backed_grown m c.nodes _ i campaignTerm count left grown ?_
      simp only [Process.voteReply] at answered
      split at answered
      · rename_i term votes peer rest running
        have backed := safe.counted i term votes (peer :: rest) running
        cases reply with
        | none =>
            cases answered
            simp only [ElectionThread.campaign.injEq] at campaign
            rw [← campaign.1, ← campaign.2.1, ← campaign.2.2]
            exact backed_next m c.nodes i term votes peer rest backed
        | some vote =>
            simp only at answered
            split at answered
            · cases answered
              cases campaign
            · cases answered
              simp only [ElectionThread.campaign.injEq] at campaign
              rw [← campaign.1, ← campaign.2.1, ← campaign.2.2]
              split
              · rename_i granted
                have mine := own vote rfl
                simp only [System.replyFor, Option.bind_eq_some_iff] at mine
                obtain ⟨k, waiting, call, found, replied⟩ := mine
                obtain ⟨asked, place, from_, _, _, here⟩ := safe.asking i k waiting
                rw [place, Option.some.injEq] at found
                rw [← found] at replied
                rw [running] at here
                simp only [ElectionThread.campaign.injEq, List.cons.injEq] at here
                have gave := safe.granted asked (List.mem_of_getElem? place) vote replied granted
                rw [from_, ← here.1] at gave
                rw [here.2.2.1] at backed
                exact backed_vote m c.nodes i asked.callee term votes rest backed gave
              · exact backed_next m c.nodes i term votes peer rest backed
      · cases answered
    · simp only [Function.update_of_ne here] at campaign
      exact backed_grown m c.nodes _ i campaignTerm count left grown (safe.counted i campaignTerm count left campaign)
  · exact fun i term member => elected_grown m c.nodes _ i term grown (safe.elected i term member)
  · refine update_property c.nodes caller q (fun i p => p.node.role = .leader → (i, p.node.term) ∈ c.elected) safe.leading ?_
    intro leads
    have taken : (c.nodes caller).next (m.settings caller) (.voteReply reply timing) = some q := answered
    obtain ⟨same, led | elects⟩ := leader_before _ _ _ _ taken leads
    · rw [same]
      exact safe.leading caller led
    · cases elects

theorem backed_start (m : Membership ι) (nodes : ι → Process) (i : ι) (term : Int)
    (own : (term, (m.settings i).id) ∈ (nodes i).grants) : Backed m nodes i term 1 (m.settings i).peers := by
  refine ⟨List.suffix_refl _, {i}, Finset.card_singleton i, ?_⟩
  intro j member
  rw [Finset.mem_singleton] at member
  subst member
  exact ⟨url_not_own_peer m j, own⟩

theorem step_safe (m : Membership ι) (c d : System ι) (i : ι) (event : Event) (safe : Safe m c)
    (timely : c.Timely m (.step i event)) (taken : c.step m i event = some d) : Safe m d := by
  simp only [System.step] at taken
  split at taken
  · cases taken
  · rename_i foreign
    simp only [Option.map_eq_some_iff] at taken
    obtain ⟨q, stepped, rfl⟩ := taken
    have other : event.isVoteReply = false := by simpa using foreign
    have change := event_change (m.settings i) (c.nodes i) q event (safe.honest i) timely.1 stepped
    have grown := grown_update c.nodes i q (grants_grow _ _ _ change)
    have moved := election_move (m.settings i) (c.nodes i) q event other stepped
    refine ⟨?_, ?_, ?_, ?_, ?_, ?_⟩
    · exact update_property c.nodes i q (fun j p => Honest (m.settings j) p) safe.honest
        (change_honest _ _ _ (safe.honest i) change)
    · exact fun call member vote replied granted => grown call.callee (safe.granted call member vote replied granted)
    · intro j k waiting
      by_cases here : j = i
      · subst here
        have kept : event.restarts = false := by
          cases restart : event.restarts with
          | false => rfl
          | true => simp [restart] at waiting
        simp only [kept, Bool.false_eq_true, if_false, Function.update_self] at waiting ⊢
        obtain ⟨call, found, from_, votes, left, campaign⟩ := safe.asking j k waiting
        refine ⟨call, found, from_, votes, left, ?_⟩
        cases moved with
        | kept same => rw [same, campaign]
        | started _ _ _ armed =>
            rw [armed] at campaign
            cases campaign
        | other _ before => exact absurd campaign (before _ _ _ _)
        | restarted _ restart =>
            rw [restart] at kept
            cases kept
      · simp only [Function.update_of_ne here] at waiting ⊢
        refine safe.asking j k ?_
        split at waiting
        · rwa [Function.update_of_ne here] at waiting
        · exact waiting
    · intro j term votes left campaign
      by_cases here : j = i
      · subst here
        simp only [Function.update_self] at campaign
        cases moved with
        | kept same =>
            rw [same] at campaign
            exact backed_grown m c.nodes _ j term votes left grown (safe.counted j term votes left campaign)
        | started newTerm new own _ =>
            rw [new] at campaign
            cases campaign
            exact backed_start m _ j term (by simpa only [Function.update_self] using own)
        | other quiet _ => exact absurd campaign (quiet term votes left)
        | restarted idle _ =>
            rw [idle] at campaign
            cases campaign
      · simp only [Function.update_of_ne here] at campaign
        exact backed_grown m c.nodes _ j term votes left grown (safe.counted j term votes left campaign)
    · intro j term member
      by_cases old : (j, term) ∈ c.elected
      · exact elected_grown m c.nodes _ j term grown (safe.elected j term old)
      · by_cases elects : (c.nodes i).elects (m.settings i) event = true
        · rw [if_pos elects] at member
          simp only [List.mem_append, List.mem_singleton, Prod.mk.injEq] at member
          obtain ⟨rfl, rfl⟩ := member.resolve_left old
          obtain ⟨ran, votes, campaign, enough, same⟩ := elects_spec _ _ _ _ elects timely.2.1 stepped
          obtain ⟨_, voters, count, gave⟩ := safe.counted j ran votes [] campaign
          have current : (c.nodes j).node.term = ran := timely.2.2 elects ran (by simp [ElectionThread.campaignTerm, campaign])
          refine elected_grown m c.nodes _ j _ grown ⟨voters, needed_majority m j voters (count.symm ▸ enough), ?_⟩
          intro voter counted
          rw [same, current]
          exact (gave voter counted).2
        · rw [if_neg elects] at member
          exact absurd member old
    · have kept : ∀ (entry new : ι × Int), entry ∈ c.elected →
          entry ∈ if (c.nodes i).elects (m.settings i) event then c.elected ++ [new] else c.elected := by
        intro entry new member
        split
        · exact List.mem_append_left _ member
        · exact member
      refine update_property c.nodes i q (fun j p => p.node.role = .leader → (j, p.node.term) ∈ _)
        (fun j leads => kept _ _ (safe.leading j leads)) ?_
      intro leads
      obtain ⟨same, led | elects⟩ := leader_before _ _ _ _ stepped leads
      · rw [same]
        exact kept _ _ (safe.leading i led)
      · rw [if_pos elects]
        exact List.mem_append_right _ (by simp)

theorem next_safe (m : Membership ι) (c : System ι) (event : SystemEvent ι) (d : System ι) (safe : Safe m c)
    (timely : c.Timely m event) (taken : c.next m event = some d) : Safe m d := by
  cases event with
  | ask caller callee => exact ask_safe m c d caller callee safe taken
  | deliver call timing => exact deliver_safe m c d call timing safe taken
  | answer caller timing =>
      simp only [System.next, System.answer] at taken
      split at taken
      · rename_i reply mine
        refine receive_safe m c d caller (some reply) timing safe (timely reply mine) ?_ taken
        intro vote same
        cases same
        exact mine
      · cases taken
  | giveUp caller =>
      refine receive_safe m c d caller none ⟨0, 0⟩ safe ?_ ?_ taken
      · intro term member
        cases member
      · intro vote same
        cases same
  | step node event => exact step_safe m c d node event safe timely taken

-- One leader a term, each with the votes of a majority in that term; the nodes
-- that are leader now are among those that were elected.
theorem election_safety (m : Membership ι) (boots : ι → ℚ × Timing) (events : List (SystemEvent ι)) (c : System ι)
    (run : SystemRun m (System.Timely m) (.start m boots) events c) :
    (∀ i j term, (i, term) ∈ c.elected → (j, term) ∈ c.elected → i = j) ∧
      (∀ i term, (i, term) ∈ c.elected →
        ∃ voters : Finset ι, Quorum.Majority voters ∧ ∀ j ∈ voters, (term, (m.settings i).id) ∈ (c.nodes j).grants) ∧
      ∀ i, (c.nodes i).node.role = .leader → (i, (c.nodes i).node.term) ∈ c.elected := by
  have safe : Safe m c := by
    refine Runs.run_invariant (System.next m) (System.Timely m) (Safe m) ?_ _ c events (start_safe m boots) run
    exact fun state event after safe timely taken => next_safe m state event after safe timely taken
  refine ⟨?_, safe.elected, safe.leading⟩
  intro i j term first second
  obtain ⟨left, leftMajority, leftGave⟩ := safe.elected i term first
  obtain ⟨right, rightMajority, rightGave⟩ := safe.elected j term second
  refine m.ids (Quorum.backed_value_unique (fun voter id => (term, id) ∈ (c.nodes voter).grants) ?_ _ _ left right
    leftMajority rightMajority leftGave rightGave)
  exact fun voter x y => (safe.honest voter).single term x y

def threeMasters : Membership (Fin 3) where
  settings := fun i => { id := toString i, peers := (([0, 1, 2] : List (Fin 3)).filter fun j => decide (j ≠ i)).map toString }
  url := toString
  ids := by decide
  urls := by decide
  distinct := by decide
  others := by
    intro i address
    simp only [List.mem_map, List.mem_filter, decide_eq_true_eq]
    exact exists_congr fun j => and_congr_left fun _ => ⟨fun both => both.2, fun other => ⟨by fin_cases j <;> simp, other⟩⟩

def threeStarted : System (Fin 3) := .start threeMasters fun _ => (0, ⟨0, 0⟩)

def wonElection : Option (System (Fin 3)) :=
  Runs.follow (System.next threeMasters) (System.Timely threeMasters) threeStarted
    [.step 0 (.checkElection 10), .step 0 (.startElection ⟨10, 0⟩), .ask 0 1, .deliver 0 ⟨10, 0⟩, .answer 0 ⟨11, 0⟩, .ask 0 2,
      .giveUp 0, .step 0 (.decide ⟨12, 0⟩)]

theorem election_safety_won : ∃ c ∈ wonElection,
    (∀ i j term, (i, term) ∈ c.elected → (j, term) ∈ c.elected → i = j) ∧
      (∀ i term, (i, term) ∈ c.elected → ∃ voters : Finset (Fin 3), Quorum.Majority voters ∧
        ∀ j ∈ voters, (term, (threeMasters.settings i).id) ∈ (c.nodes j).grants) ∧
      ∀ i, (c.nodes i).node.role = .leader → (i, (c.nodes i).node.term) ∈ c.elected := by
  have taken : wonElection.isSome = true := by decide +kernel
  obtain ⟨c, reached⟩ := Option.isSome_iff_exists.mp taken
  exact ⟨c, reached, election_safety threeMasters _ _ c (Runs.follow_run _ _ _ c _ reached)⟩

-- Node 0 waits for the vote of node 1 in term 1 while node 2 loses that term,
-- runs again in term 2, is voted for by both and becomes leader. The old vote
-- then makes node 0 leader as well, in the term it has meanwhile voted in.
def splitElection : List (SystemEvent (Fin 3)) :=
  [.step 0 (.checkElection 10), .step 0 (.startElection ⟨10, 0⟩), .ask 0 1, .deliver 0 ⟨10, 0⟩,
    .step 2 (.checkElection 10), .step 2 (.startElection ⟨10, 0⟩), .ask 2 0, .deliver 1 ⟨11, 0⟩, .answer 2 ⟨11, 0⟩,
    .ask 2 1, .deliver 2 ⟨11, 0⟩, .answer 2 ⟨11, 0⟩, .step 2 (.decide ⟨11, 0⟩),
    .step 2 (.checkElection 20), .step 2 (.startElection ⟨20, 0⟩), .ask 2 0, .deliver 3 ⟨20, 0⟩, .answer 2 ⟨20, 0⟩,
    .ask 2 1, .deliver 4 ⟨20, 0⟩, .answer 2 ⟨21, 0⟩, .step 2 (.decide ⟨21, 0⟩),
    .answer 0 ⟨22, 0⟩, .ask 0 2, .giveUp 0, .step 0 (.decide ⟨23, 0⟩)]

theorem two_leaders_in_one_term : ∃ c, SystemRun threeMasters (fun _ _ => True) threeStarted splitElection c ∧
    (c.nodes 0).node.role = .leader ∧ (c.nodes 2).node.role = .leader ∧ (c.nodes 0).node.term = (c.nodes 2).node.term ∧
      ∀ j, ((c.nodes 0).node.term, "0") ∉ (c.nodes j).grants := by
  have taken : ∃ c ∈ Runs.follow (System.next threeMasters) (fun _ _ => True) threeStarted splitElection,
      (c.nodes 0).node.role = .leader ∧ (c.nodes 2).node.role = .leader ∧ (c.nodes 0).node.term = (c.nodes 2).node.term ∧
        ∀ j, ((c.nodes 0).node.term, "0") ∉ (c.nodes j).grants := by decide +kernel
  obtain ⟨c, reached, outcome⟩ := taken
  exact ⟨c, Runs.follow_run _ _ _ c _ reached, outcome⟩

end HuddleCluster.HA
