/-
The command line of a client handler.

The launcher joins the words of a `systemd-run` call with spaces and hands the
line to a shell.  A generated id has no space, so the line splits into the
words that were meant, and it names the session it was made for.
-/

import OpenSmsc.Server.TcpServer

namespace OpenSmsc.TcpServer

/-! ### The words of the line -/

def unitName (uuid : Octets) : Octets := text "smpp-client-" ++ uuid

/-- The words meant.  32 is the space between them. -/
def launchWords (uuid clientIp : Octets) : List Octets :=
  [text "systemd-run", text "--unit=" ++ unitName uuid, text "--collect",
    text "--property=User=smpp-client", handlerBin, text "--uuid=" ++ uuid,
    text "--client-ip=" ++ clientIp]

/-- The session id and the address a line of seven words was made for. -/
def readLaunchCommand (command : Octets) : Option (Octets × Octets) :=
  match command.splitOn 32 with
  | [_, _, _, _, _, uuid, clientIp] =>
      some (uuid.drop (text "--uuid=").length,
        clientIp.drop (text "--client-ip=").length)
  | _ => none

theorem buildLaunchCommand_words (uuid clientIp : Octets) :
    buildLaunchCommand uuid clientIp =
      [32].intercalate (launchWords uuid clientIp) := by
  simp only [buildLaunchCommand, launchWords, unitName, List.intercalate,
    List.intersperse, List.flatten_cons, List.flatten_nil, List.append_nil,
    List.append_assoc]
  rfl

theorem launchWords_no_space {uuid clientIp : Octets}
    (uuidNoSpace : 32 ∉ uuid) (ipNoSpace : 32 ∉ clientIp) :
    ∀ word ∈ launchWords uuid clientIp, 32 ∉ word := by
  have extended (front rest : Octets) (frontNoSpace : 32 ∉ front)
      (restNoSpace : 32 ∉ rest) : 32 ∉ front ++ rest := by
    intro space
    rcases List.mem_append.mp space with inFront | inRest
    · exact frontNoSpace inFront
    · exact restNoSpace inRest
  have unitNoSpace : 32 ∉ unitName uuid :=
    extended _ uuid (by decide) uuidNoSpace
  unfold launchWords
  simp only [List.forall_mem_cons]
  refine ⟨by decide, extended _ _ (by decide) unitNoSpace, by decide,
    by decide, by decide, extended _ _ (by decide) uuidNoSpace,
    extended _ _ (by decide) ipNoSpace, ?_⟩
  intro word member
  cases member

theorem buildLaunchCommand_split {uuid clientIp : Octets}
    (uuidNoSpace : 32 ∉ uuid) (ipNoSpace : 32 ∉ clientIp) :
    (buildLaunchCommand uuid clientIp).splitOn 32 =
      launchWords uuid clientIp := by
  rw [buildLaunchCommand_words]
  apply List.splitOn_intercalate
  · exact launchWords_no_space uuidNoSpace ipNoSpace
  · exact List.cons_ne_nil _ _

theorem readLaunchCommand_build {uuid clientIp : Octets}
    (uuidNoSpace : 32 ∉ uuid) (ipNoSpace : 32 ∉ clientIp) :
    readLaunchCommand (buildLaunchCommand uuid clientIp) =
      some (uuid, clientIp) := by
  unfold readLaunchCommand
  rw [buildLaunchCommand_split uuidNoSpace ipNoSpace]
  unfold launchWords
  dsimp only
  rw [List.drop_left, List.drop_left]

/-! ### Sessions told apart -/

theorem unitName_injective {uuid uuid' : Octets}
    (same : unitName uuid = unitName uuid') : uuid = uuid' :=
  List.append_cancel_left same

theorem buildLaunchCommand_uuid {uuid uuid' clientIp clientIp' : Octets}
    (sameLength : uuid.length = uuid'.length)
    (same : buildLaunchCommand uuid clientIp =
      buildLaunchCommand uuid' clientIp') : uuid = uuid' := by
  simp only [buildLaunchCommand, List.append_assoc] at same
  have behindUnit := List.append_cancel_left (List.append_cancel_left same)
  exact (List.append_inj behindUnit sameLength).1

theorem generated_no_space (ts rnd : UInt64) :
    32 ∉ generateSessionId ts rnd := by
  intro space
  have impossible := SessionId.octet_of_mem ts rnd 32 space
  revert impossible
  decide

/-- Ids are as distinct as the numbers in them, and a line splits into the
seven words meant, from which both arguments can be read; so no two sessions
share a unit or a line. -/
theorem session_ids_command_safe (ts rnd : UInt64) (clientIp : Octets)
    (noSpace : 32 ∉ clientIp) :
    let id := generateSessionId ts rnd
    id.length = 29 ∧
      (∀ octet ∈ id, IsHexDigit octet ∨ octet = 45) ∧
      (∀ ts' rnd', id = generateSessionId ts' rnd' ↔
        ts.toNat % 2 ^ 48 = ts'.toNat % 2 ^ 48 ∧ rnd = rnd') ∧
      (buildLaunchCommand id clientIp).splitOn 32 =
        launchWords id clientIp ∧
      readLaunchCommand (buildLaunchCommand id clientIp) =
        some (id, clientIp) ∧
      ∀ ts' rnd', id ≠ generateSessionId ts' rnd' →
        unitName id ≠ unitName (generateSessionId ts' rnd') ∧
          ∀ clientIp', buildLaunchCommand id clientIp ≠
            buildLaunchCommand (generateSessionId ts' rnd') clientIp' := by
  intro id
  have idNoSpace : 32 ∉ id := generated_no_space ts rnd
  refine ⟨SessionId.length_eq ts rnd, SessionId.octet_of_mem ts rnd,
    SessionId.eq_iff ts rnd, buildLaunchCommand_split idNoSpace noSpace,
    readLaunchCommand_build idNoSpace noSpace, ?_⟩
  intro ts' rnd' different
  constructor
  · intro sameUnit
    exact different (unitName_injective sameUnit)
  · intro clientIp' sameLine
    have sameLength : id.length = (generateSessionId ts' rnd').length :=
      (SessionId.length_eq ts rnd).trans (SessionId.length_eq ts' rnd').symm
    exact different (buildLaunchCommand_uuid sameLength sameLine)

theorem example_command_read :
    32 ∉ text "10.0.0.1" ∧
      readLaunchCommand
          (buildLaunchCommand
            (generateSessionId 0x0195f3a7b2c1 0xa3f8d901c4b72e5d)
            (text "10.0.0.1")) =
        some (generateSessionId 0x0195f3a7b2c1 0xa3f8d901c4b72e5d,
          text "10.0.0.1") := by
  have noSpace : 32 ∉ text "10.0.0.1" := by decide
  have safe := session_ids_command_safe 0x0195f3a7b2c1 0xa3f8d901c4b72e5d
    (text "10.0.0.1") noSpace
  exact ⟨noSpace, safe.2.2.2.2.1⟩

end OpenSmsc.TcpServer
