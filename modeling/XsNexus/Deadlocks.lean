import XsNexus.LockOrder
import XsNexus.PublishedCandidates

namespace XsNexus

open ByteCodec Checks FiniteMap ReadCommitted Relation Runs

theorem ordered_run_of_takes {x : Tx Unit} (h : Takes [] x fun _ _ => True) :
    x.run.Ordered AllowedLock [] :=
  h _ fun _ _ _ => trivial

-- the order of the locks of a request is never computed
attribute [local irreducible] ReadCommitted.Script.Ordered

theorem ordered_script (p : Platform) (state : AppState) (request : TransactionRequest) :
    (request.script p state).Ordered AllowedLock [] := by
  cases request with
  | enrollNode request databaseId times =>
    exact ordered_run_of_takes (Takes.enrollNode p state request databaseId times)
  | revokeNode networkId nodeIdBase64 ipCooldownSeconds times =>
    exact ordered_run_of_takes
      (Takes.revokeNode p state networkId nodeIdBase64 ipCooldownSeconds times)
  | replaceAclPolicy networkId request times =>
    exact ordered_run_of_takes (Takes.replaceAclPolicy p state networkId request times)
  | replaceSubnetRoutes networkId request times =>
    exact ordered_run_of_takes (Takes.replaceSubnetRoutes p state networkId request times)
  | replaceNodeUpdateChannel networkId nodeIdBase64 request times =>
    exact ordered_run_of_takes
      (Takes.replaceNodeUpdateChannel p state networkId nodeIdBase64 request times)
  | advertiseCandidates authenticated advertisement signatureBase64 times =>
    exact ordered_run_of_takes
      (Takes.advertiseCandidates p state authenticated advertisement signatureBase64 times)
  | advertiseSubnetRoutes authenticated advertisement signatureBase64 times =>
    exact ordered_run_of_takes
      (Takes.advertiseSubnetRoutes p authenticated advertisement signatureBase64 times)

/-- Transactions wait for each other in a cycle only where one that has the row of its network locked
against all others is kept waiting for a row of the nodes or the advertisements. -/
theorem transactions_deadlock_free (p : Platform) (state : AppState) (db : Database)
    (ops : List DatabaseOp)
    (h : ¬Obstructed (final (DatabaseServer.step p state) ⟨db, ∅⟩ ops)) :
    ¬(final (DatabaseServer.step p state) ⟨db, ∅⟩ ops).Deadlocked lockRules := by
  rw [final_databaseServer] at h ⊢
  refine Server.not_deadlocked_of_rank fun id id' id'' hwaits hwaits' =>
    waitsFor_rises (Server.ordered_run fun id script hmem => ?_) (Server.exclusive_run _) h hwaits hwaits'
  obtain ⟨op, _, hop⟩ := List.mem_map.mp hmem
  cases op with
  | start id request =>
    cases hop
    exact ordered_script p state request
  | advance id => simp [DatabaseOp.serverOp] at hop
  | abort id => simp [DatabaseOp.serverOp] at hop
  | createEnrollmentToken request tokenId random times => simp [DatabaseOp.serverOp] at hop

/-- The tables once the sample node is enrolled. -/
def sampleTables : Option Database :=
  (sampleEnrollment.foldlM (Controller.serve samplePlatform sampleAppState) ⟨.empty, []⟩).toOption.map
    Controller.database

def sampleChannelRequest : TransactionRequest :=
  .replaceNodeUpdateChannel (fill 16 21) (Base64.urlEncode sampleNodeId.val) ⟨2, .testing⟩
    (sampleMoment 3)

def sampleAdvertisingRequest : TransactionRequest :=
  .advertiseCandidates sampleSession sampleAdvertisement
    (sampleSignature (candidateAdvertisementDomain ++ Json.candidateAdvertisement sampleAdvertisement))
    (sampleMoment 3)

/-- The node advertises its candidates as its update channel is replaced. -/
def sampleOverlap : List DatabaseOp :=
  [.start 1 sampleChannelRequest, .start 2 sampleAdvertisingRequest] ++
    List.replicate 2 (.advance 2) ++ List.replicate 5 (.advance 1) ++ List.replicate 6 (.advance 2)

/-- Nobody has locked the row of a network against all others. -/
theorem not_obstructed_of_all {server : DatabaseServer}
    (h : server.transactions.entries.all (fun entry => entry.2.locks.all fun lock =>
      decide (lock.1.rank < 4 ∨ lock.2 ≠ .update)) = true) : ¬Obstructed server := by
  rintro ⟨id, _, transaction, _, _, _, networkId, _, hl, _, _, hheld⟩
  have hentry := List.all_eq_true.mp h _ (AList.mem_lookup_iff.mp hl)
  rcases of_decide_eq_true (List.all_eq_true.mp hentry _ hheld) with hrank | hmode
  · exact absurd hrank (by decide : ¬4 < 4)
  · exact hmode rfl

/-- The node advertises twice at once, before its update channel is replaced. -/
def sampleQueue : List DatabaseOp :=
  [.start 1 sampleChannelRequest, .start 2 sampleAdvertisingRequest, .start 3 sampleAdvertisingRequest] ++
    List.replicate 2 (.advance 2) ++ [.advance 3]

/-- In the queue one transaction waits for the other, which has only the row of the node locked; in
the overlap each waits for the other. -/
theorem sampleOverlap_run : sampleTables.any (fun db =>
    ((final (DatabaseServer.step samplePlatform sampleAppState) ⟨db, ∅⟩
      sampleQueue).transactions.entries.all fun entry =>
        entry.2.locks.all fun lock => decide (lock.1.rank < 4 ∨ lock.2 ≠ .update)) &&
    ((final (DatabaseServer.step samplePlatform sampleAppState) ⟨db, ∅⟩ sampleQueue).waits
      lockRules 3 2 &&
    ((final (DatabaseServer.step samplePlatform sampleAppState) ⟨db, ∅⟩ sampleOverlap).waits
      lockRules 1 2 &&
    (final (DatabaseServer.step samplePlatform sampleAppState) ⟨db, ∅⟩ sampleOverlap).waits
      lockRules 2 1))) = true := by
  decide +kernel

theorem transactions_deadlock_free_sample : ∃ db, sampleTables = some db ∧
    (final (DatabaseServer.step samplePlatform sampleAppState) ⟨db, ∅⟩ sampleQueue).WaitsFor
      lockRules 3 2 ∧
    ¬(final (DatabaseServer.step samplePlatform sampleAppState) ⟨db, ∅⟩ sampleQueue).Deadlocked
      lockRules := by
  obtain ⟨db, hdb, hrun⟩ := (Option.any_eq_true _ _).mp sampleOverlap_run
  rw [Bool.and_eq_true, Bool.and_eq_true] at hrun
  have hfree := not_obstructed_of_all hrun.1
  exact ⟨db, hdb, Server.waitsFor_of_waits hrun.2.1,
    transactions_deadlock_free samplePlatform sampleAppState db sampleQueue hfree⟩

/-- Each of the two transactions has locked the row that the other one asks for next. -/
theorem advertisement_deadlocks : ∃ db, sampleTables = some db ∧
    (final (DatabaseServer.step samplePlatform sampleAppState) ⟨db, ∅⟩ sampleOverlap).Deadlocked
      lockRules := by
  obtain ⟨db, hdb, hrun⟩ := (Option.any_eq_true _ _).mp sampleOverlap_run
  simp only [Bool.and_eq_true] at hrun
  exact ⟨db, hdb, 1, .tail (.single (Server.waitsFor_of_waits hrun.2.2.1))
    (Server.waitsFor_of_waits hrun.2.2.2)⟩

end XsNexus
