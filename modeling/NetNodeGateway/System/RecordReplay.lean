import NetNodeGateway.Gateway.Correctness.Replay
import NetNodeGateway.Replay.Correctness.ReplayMain

/-!
# Recording at one gateway, resending with the replay tool to another

A gateway running over a UDP socket with recording on writes one record per datagram it
receives (`Gateway.recorder_runUdp`).  `replay_main` run on that file sends the recorded
datagrams again, in order (`ReplayMain.run_recordsBytes`): none of them is empty, since
`recvfrom` returning `0` is not a datagram received, and over IPv4 none is longer than the
`65507` bytes a datagram carries, so the sink refuses none.  A second gateway with the
same CRC policy that receives exactly those datagrams agrees with the first one on everything
but time (`Gateway.Agree.runUdp`).
-/

namespace NetNodeGateway

theorem filter_received (events : List (Option (List UInt8))) :
    (Gateway.received events).filter (!·.isEmpty) = Gateway.received events :=
  List.filter_eq_self.mpr fun d hd => by
    simpa [List.isEmpty_iff] using (Gateway.length_of_mem_received hd).1

/-- **Resending a recording reproduces the session at another gateway**: a fresh gateway with
CRC policy `c` runs over a UDP socket with recording on, its record file opened, for any
`receive` results and clocks.  `replay_main` at any speed, run on the file it wrote with its loop
allowed one iteration per `receive` and one more, sends datagrams that a fresh gateway with the
same policy (recording or not) receives over its own UDP socket, in order and with any timeouts
between them.  The second gateway ends with the same tracker, the same global counters, the same
per-source counters up to `last_ts_ns`, and the same published records up to their timestamps. -/
theorem replayTool_reproduces (c : Bool) (events : List (Option (List UInt8)))
    (clock rxClock : Nat → UInt64) (timed : Bool) (fuel : Nat) (hfuel : events.length < fuel)
    (record recordOpened : Bool) (events' : List (Option (List UInt8)))
    (clock' rxClock' : Nat → UInt64)
    (hnet : (ReplayMain.run (some (({ config := { crcEnabled := c, recordEnabled := true } } :
        Gateway).runUdp true true clock rxClock events).recorder.file) timed false fuel).map (·.1) =
      some (Gateway.received events')) :
    (let recorded := ({ config := { crcEnabled := c, recordEnabled := true } } : Gateway).runUdp
       true true clock rxClock events
     let remote := ({ config := { crcEnabled := c, recordEnabled := record } } : Gateway).runUdp
       true recordOpened clock' rxClock' events'
     remote.tracker = recorded.tracker ∧ remote.stats.getGlobalStats = recorded.stats.getGlobalStats ∧
       remote.stats.untimed = recorded.stats.untimed ∧
       remote.published.map EventRecord.untimed = recorded.published.map EventRecord.untimed) := by
  intro recorded remote
  set rs := (Gateway.stampFrames rxClock 0 (Gateway.received events)).map fun x => (x.2, x.1)
  have hfile : recorded.recorder.file = recordsBytes rs := Gateway.recorder_runUdp _ rfl _ _ _
  have hframes : rs.map (·.2) = Gateway.received events := by
    simp only [rs, List.map_map]
    exact Gateway.map_fst_stampFrames rxClock 0 _
  have hlen : ∀ x ∈ rs, x.2.length < 4294967296 := fun x hx => by
    have := (Gateway.length_of_mem_received (hframes ▸ List.mem_map_of_mem Prod.snd hx)).2
    omega
  have hrs : rs.length < fuel := by
    rw [← List.length_map rs (·.2), hframes]
    exact lt_of_le_of_lt (List.length_filterMap_le _ events) hfuel
  rw [hfile, ReplayMain.run_recordsBytes rs hlen timed false fuel hrs] at hnet
  simp only [Bool.false_eq_true, if_false, Option.map_some', hframes, filter_received,
    Option.some.injEq] at hnet
  have hmid : Gateway.Agree (({ config := { crcEnabled := c, recordEnabled := record } } :
        Gateway).processFrames clock' (Gateway.stampFrames rxClock' 0 (Gateway.received events')))
      (({ config := { crcEnabled := c, recordEnabled := true } } : Gateway).processFrames clock
        (Gateway.stampFrames rxClock 0 (Gateway.received events))) :=
    Gateway.Agree.processFrames clock' clock _ _ ⟨rfl, rfl, rfl, rfl⟩
      (by simp only [Gateway.map_fst_stampFrames, hnet])
  have hagree : Gateway.Agree remote recorded :=
    (Gateway.Agree.runUdp _ recordOpened clock' rxClock' events').trans
      (hmid.trans (Gateway.Agree.runUdp _ true clock rxClock events).symm)
  have hglobal := congrArg StatsManager.global hagree.stats
  exact ⟨hagree.tracker, hglobal, hagree.stats, hagree.published⟩

theorem replayTool_reproduces_timeouts :
    [some ([1, 2, 3] : List UInt8), none].length < 3 ∧
      (ReplayMain.run (some (({ config := { crcEnabled := false, recordEnabled := true } } :
        Gateway).runUdp true true (fun _ => 0) (fun _ => 0) [some [1, 2, 3], none]).recorder.file)
          true false 3).map (·.1) = some (Gateway.received [none, none, some [1, 2, 3]]) ∧
      (({ config := { crcEnabled := false, recordEnabled := false } } : Gateway).runUdp true false
          (fun _ => 5) (fun _ => 5) [none, none, some [1, 2, 3]]).tracker =
        (({ config := { crcEnabled := false, recordEnabled := true } } : Gateway).runUdp true true
          (fun _ => 0) (fun _ => 0) [some [1, 2, 3], none]).tracker :=
  have hnet : (ReplayMain.run (some (({ config := { crcEnabled := false, recordEnabled := true } } :
      Gateway).runUdp true true (fun _ => 0) (fun _ => 0) [some [1, 2, 3], none]).recorder.file)
        true false 3).map (·.1) = some (Gateway.received [none, none, some [1, 2, 3]]) := by decide
  ⟨by decide, hnet, (replayTool_reproduces false [some [1, 2, 3], none] (fun _ => 0) (fun _ => 0) true 3
    (by decide) false false [none, none, some [1, 2, 3]] (fun _ => 5) (fun _ => 5) hnet).1⟩

end NetNodeGateway
