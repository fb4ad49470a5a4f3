import TextAdventure.Proofs.Format.Flags
import TextAdventure.Proofs.Game.Marks
import TextAdventure.Proofs.Game.Reach
import TextAdventure.Proofs.Game.Resuming

/-
  What runs only once does so in all of a play-through.

  A play-through begins anew and goes on with lines, with
  content that is added and with saves that are loaded. In
  all of it the scripts that run once for a thing and a verb
  are set off in one turn at most, each of them once, and
  from then on their mark stays.

  Main declarations:
    * `Game.setOff`
    * `Game.Plays`
    * `Game.firings`
    * `Game.Plays.marks`
    * `Game.Plays.firings_sublist`
    * `Game.once_scripts_fire_once`
-/

namespace TextAdventure

open Scene (onceFor)

namespace Game

variable {game : Game}

------------------------------------------------------------
-- Marks Of A Line
------------------------------------------------------------

/- The scripts that a line sets off. -/
def setOff (game : Game) (line : String) : List Script :=
  (nextTurn game.scene).setOff (Command.ofLine line)

/- No script of the world is set off twice by a line. -/
theorem setOff_sublist (game : Game) (line : String) :
    (game.setOff line).Sublist game.world.scripts :=
  Scene.setOff_sublist (nextTurn game.scene) _

/- Counting a turn and recording changes set no flag. -/
theorem flag?_nextTurn (scene : Scene) (flag : String) :
    (nextTurn scene).session.flag? flag =
      scene.session.flag? flag := rfl

theorem flag?_recordChanges (scene : Scene) (flag : String) :
    (recordChanges scene).session.flag? flag =
      scene.session.flag? flag := by
  rw [recordChanges_eq]
  rfl

/- A line leaves the marks of the scripts that it sets off. -/
theorem flag?_execute
    (hSpares : ∀ effect ∈ game.world.effects,
      effect.SparesMarks)
    (line : String)
    (script : Script) :
    (game.execute line).value.1.session.flag?
        script.firedFlag =
      if onceFor (game.setOff line)
          script.thing script.verb = [] then
        game.session.flag? script.firedFlag
      else
        some (.boolean true) := by
  have hNext :
      ∀ effect ∈ (nextTurn game.scene).world.effects,
        effect.SparesMarks :=
    hSpares
  have hTurn :=
    Scene.flag?_perform hNext game.settings.maxPasses
      (Command.ofLine line) script
  unfold session setOff
  rw [scene_execute, flag?_recordChanges, turn, hTurn,
    flag?_nextTurn]

/- No mark stands for what a line sets off. -/
theorem onceFor_setOff_eq_nil
    {line : String}
    {script : Script}
    (hMark :
      game.session.flag? script.firedFlag =
        some (.boolean true)) :
    onceFor (game.setOff line) script.thing script.verb =
      [] := by
  have hNext :
      (nextTurn game.scene).session.flag? script.firedFlag =
        some (.boolean true) :=
    (flag?_nextTurn _ _).trans hMark
  exact Scene.onceFor_setOff_eq_nil hNext

------------------------------------------------------------
-- Play-Throughs
------------------------------------------------------------

/-
  A game and the lines played in it, each with the game that
  it was played in. Content may be added whose effects spare
  the marks, and the game may be resumed from its session, or
  loaded from its text, in the content that it began with.
-/
inductive Plays (content : Content) (first : Game) :
    List (Game × String) → Game → Prop where
| begins : Plays content first [] first
| execute
    {played : List (Game × String)}
    {game : Game}
    (hPlays : Plays content first played game)
    (line : String) :
    Plays content first (played ++ [(game, line)])
      (game.execute line).value.1
| add
    {played : List (Game × String)}
    {game : Game}
    (hPlays : Plays content first played game)
    (addition : Addition)
    (hSpares : ∀ effect ∈ addition.effects,
      effect.SparesMarks) :
    Plays content first played (game.add addition)
| resume
    {played : List (Game × String)}
    {game resumed : Game}
    {settings : Settings}
    {disk : Disk}
    (hPlays : Plays content first played game)
    (hContent : settings.content disk = content)
    (hResume :
      (resume settings disk game.session).value =
        .ok resumed) :
    Plays content first played resumed
| load
    {played : List (Game × String)}
    {game loaded : Game}
    {settings : Settings}
    {disk : Disk}
    {time : Timestamp}
    (hPlays : Plays content first played game)
    (hContent : settings.content disk = content)
    (hLoad :
      (load settings disk (game.save time)).value =
        .ok loaded) :
    Plays content first played loaded

/- The once-scripts for a thing and a verb that were set off. -/
def firings
    (played : List (Game × String))
    (thing : String)
    (verb : Verb) : List Script :=
  onceFor
    (played.flatMap (fun turn => turn.1.setOff turn.2))
    thing verb

theorem firings_concat
    (played : List (Game × String))
    (line : String)
    (thing : String)
    (verb : Verb) :
    firings (played ++ [(game, line)]) thing verb =
      firings played thing verb ++
        onceFor (game.setOff line) thing verb := by
  simp [firings, onceFor]

------------------------------------------------------------
-- Marks Of A Play-Through
------------------------------------------------------------

/- What is resumed is made of the session and the content. -/
theorem eq_of_resume
    {settings : Settings}
    {disk : Disk}
    {session : Session}
    {resumed : Game}
    (hResume :
      (resume settings disk session).value = .ok resumed) :
    resumed =
      { settings := settings
        scene :=
          Scene.resumed
            (World.ofContent (settings.content disk))
            session } := by
  rcases resume_eq_ok_iff.mp hResume with
    ⟨-, restored, hRestore, rfl⟩
  have hScene :=
    (Scene.restore_eq_ok_iff.mp ⟨_, hRestore⟩).2
  rw [hScene]

/- What is loaded is resumed from the session that is read. -/
theorem exists_resume_of_load
    {settings : Settings}
    {disk : Disk}
    {text : String}
    {loaded : Game}
    (hLoad : (load settings disk text).value = .ok loaded) :
    ∃ save, SavedGame.ofText text = .ok save ∧
      (resume settings disk save.session).value =
        .ok loaded := by
  unfold load at hLoad
  split at hLoad
  · simp [Logged.silent] at hLoad
  · rename_i save hText
    exact ⟨save, hText, hLoad⟩

/- A mark is read from a text as it was saved there. -/
theorem flag?_of_ofText
    {time : Timestamp}
    {session : Session}
    {save : SavedGame}
    (hText :
      SavedGame.ofText (SavedGame.ofSession time session).text =
        .ok save)
    {flag : String}
    (hMark :
      session.flag? flag = none ∨
        session.flag? flag = some (.boolean true)) :
    save.session.flag? flag = session.flag? flag := by
  have hKeeps := SavedGame.keepsTruth_of_ofText hText
  rcases hMark with hNone | hStands
  · exact (hKeeps.absent flag hNone).trans hNone.symm
  · exact (hKeeps.truth flag true hStands).trans hStands.symm

/-
  A game whose effects spare the marks and in which each mark
  of a script is missing or stands.
-/
structure IsMarked (game : Game) : Prop where
  spares : ∀ effect ∈ game.world.effects, effect.SparesMarks
  marks : ∀ script : Script,
    game.session.flag? script.firedFlag = none ∨
      game.session.flag? script.firedFlag =
        some (.boolean true)

/- A session with the same marks is resumed with them. -/
theorem IsMarked.resume
    {content : Content}
    {settings : Settings}
    {disk : Disk}
    {session : Session}
    {resumed : Game}
    (hMarked : game.IsMarked)
    (hSpares : ∀ effect ∈ content.effects,
      effect.SparesMarks)
    (hContent : settings.content disk = content)
    (hResume :
      (Game.resume settings disk session).value =
        .ok resumed)
    (hSame : ∀ script : Script,
      session.flag? script.firedFlag =
        game.session.flag? script.firedFlag) :
    resumed.IsMarked ∧
      ∀ script : Script,
        resumed.session.flag? script.firedFlag =
          game.session.flag? script.firedFlag := by
  subst hContent
  have hFlags (script : Script) :
      resumed.session.flag? script.firedFlag =
        game.session.flag? script.firedFlag := by
    rw [eq_of_resume hResume]
    exact hSame script
  refine ⟨⟨?_, ?_⟩, hFlags⟩
  · rw [eq_of_resume hResume]
    intro effect hMem
    apply hSpares
    rw [← World.effects_ofContent,
      ← World.effects_of_plot_eq
        (World.plot_resumed _ session)]
    exact hMem
  · intro script
    rw [hFlags]
    exact hMarked.marks script

variable {content : Content}
variable {first : Game}
variable {played : List (Game × String)}

/-
  In a play-through the marks that stand are those that stood
  at first and those of the once-scripts set off since.
-/
theorem Plays.marks
    (hPlays : Plays content first played game)
    (hSpares : ∀ effect ∈ content.effects,
      effect.SparesMarks)
    (hFirst : first.IsMarked) :
    game.IsMarked ∧
      ∀ script : Script,
        game.session.flag? script.firedFlag =
          if firings played script.thing script.verb = [] then
            first.session.flag? script.firedFlag
          else
            some (.boolean true) := by
  induction hPlays with
  | begins =>
      exact ⟨hFirst, fun script => rfl⟩
  | @execute played game hPlays line ih =>
      rcases ih with ⟨hMarked, hFlags⟩
      have hLine := flag?_execute hMarked.spares line
      refine ⟨⟨?_, ?_⟩, ?_⟩
      · rw [effects_execute]
        exact hMarked.spares
      · intro script
        rw [hLine]
        split
        · exact hMarked.marks script
        · exact Or.inr rfl
      · intro script
        rw [hLine, hFlags, firings_concat]
        by_cases hNow :
            onceFor (game.setOff line)
              script.thing script.verb = []
        · simp only [hNow, if_true, List.append_nil]
        · simp only [hNow, if_false, List.append_eq_nil_iff,
            and_false]
  | @add played game hPlays addition hMay ih =>
      rcases ih with ⟨hMarked, hFlags⟩
      rw [add_eq_withWorld]
      refine ⟨⟨?_, hMarked.marks⟩, hFlags⟩
      intro effect hMem
      rcases World.mem_effects_add hMem with hOld | hNew
      · exact hMarked.spares effect hOld
      · exact hMay effect hNew
  | resume hPlays hContent hResume ih =>
      rcases ih with ⟨hMarked, hFlags⟩
      rcases hMarked.resume hSpares hContent hResume
          (fun _ => rfl) with ⟨hResumed, hSame⟩
      exact ⟨hResumed,
        fun script => (hSame script).trans (hFlags script)⟩
  | @load played game loaded _ _ _ hPlays hContent hLoad
      ih =>
      rcases ih with ⟨hMarked, hFlags⟩
      rcases exists_resume_of_load hLoad with
        ⟨save, hText, hResume⟩
      have hRead (script : Script) :
          save.session.flag? script.firedFlag =
            game.session.flag? script.firedFlag :=
        flag?_of_ofText hText (hMarked.marks script)
      rcases hMarked.resume hSpares hContent hResume hRead
        with ⟨hResumed, hSame⟩
      exact ⟨hResumed,
        fun script => (hSame script).trans (hFlags script)⟩

/- So what runs once is set off in one turn, if at all. -/
theorem Plays.firings_sublist
    (hPlays : Plays content first played game)
    (hSpares : ∀ effect ∈ content.effects,
      effect.SparesMarks)
    (hFirst : first.IsMarked)
    (thing : String)
    (verb : Verb) :
    firings played thing verb = [] ∨
      ∃ turn ∈ played,
        (firings played thing verb).Sublist
          turn.1.world.scripts := by
  rcases (⟨{ thing, verb }, rfl, rfl⟩ :
    ∃ script : Script,
      script.thing = thing ∧ script.verb = verb) with
    ⟨script, rfl, rfl⟩
  induction hPlays with
  | begins => exact Or.inl rfl
  | @execute played game hPlays line ih =>
      have hMarks := (hPlays.marks hSpares hFirst).2 script
      rw [firings_concat]
      by_cases hBefore :
          firings played script.thing script.verb = []
      · have hLine :
            (onceFor (game.setOff line)
              script.thing script.verb).Sublist
                game.world.scripts :=
          List.filter_sublist.trans (setOff_sublist game line)
        rw [hBefore, List.nil_append]
        exact Or.inr ⟨(game, line), by simp, hLine⟩
      · -- The mark stands, and so nothing more is set off.
        have hStands :
            game.session.flag? script.firedFlag =
              some (.boolean true) :=
          hMarks.trans (if_neg hBefore)
        have hNone :
            onceFor (game.setOff line)
              script.thing script.verb = [] :=
          onceFor_setOff_eq_nil hStands
        rcases ih with hNever | ⟨turn, hTurn, hSublist⟩
        · exact absurd hNever hBefore
        · rw [hNone, List.append_nil]
          exact Or.inr
            ⟨turn, List.mem_append_left _ hTurn, hSublist⟩
  | add hPlays addition hMay ih => exact ih
  | resume hPlays hContent hResume ih => exact ih
  | load hPlays hContent hLoad ih => exact ih

/- A new game has no marks. -/
theorem isMarked_fresh
    (hSpares : ∀ effect ∈ content.effects,
      effect.SparesMarks)
    (settings : Settings)
    (id : SessionId) :
    (fresh settings content id).IsMarked where
  spares := hSpares
  marks := fun _ => Or.inl rfl

/-
  In a play-through whose effects set no flag in the style of
  a mark, each line does the work of its verb and the deeds
  that ensue, of the scripts that it sets off and the puzzles
  solved then. Of all scripts of a thing and a verb that run
  once, at most those of one turn are ever set off, and each
  of them once. Their mark stands if and only if there are
  any, and when it stands it does so to the end.
-/
theorem once_scripts_fire_once
    (hSpares : ∀ effect ∈ content.effects,
      effect.SparesMarks)
    {settings : Settings}
    {disk : Disk}
    {id : SessionId}
    (hContent : settings.content disk = content)
    (hStart : (start settings disk id).value = .ok first)
    {last : Game}
    (hPlays : Plays content first played last) :
    (∀ turn ∈ played, ∃ deeds,
      (nextTurn turn.1.scene).Ensues
          turn.1.settings.maxPasses
          (Command.ofLine turn.2) deeds ∧
        (turn.1.execute turn.2).value.1.scene =
          recordChanges
            ((turn.1.worked turn.2).undergoAll deeds)) ∧
    (∀ thing verb,
      firings played thing verb = [] ∨
        ∃ turn ∈ played,
          (firings played thing verb).Sublist
            turn.1.world.scripts) ∧
    (∀ script : Script,
      last.session.flag? script.firedFlag =
        if firings played script.thing script.verb = [] then
          none
        else
          some (.boolean true)) ∧
    ∀ middle past future,
      Plays content first past middle →
        Plays content middle future last →
          ∀ script : Script,
            middle.session.hasFlag script.firedFlag = true →
              last.session.hasFlag script.firedFlag = true := by
  subst hContent
  rcases start_eq_ok_iff.mp hStart with ⟨-, rfl⟩
  have hFirst := isMarked_fresh hSpares settings id
  refine ⟨fun turn _ => exists_ensues_execute turn.1 turn.2,
    hPlays.firings_sublist hSpares hFirst,
    (hPlays.marks hSpares hFirst).2, ?_⟩
  intro middle past future hPast hFuture script hStood
  have hMiddle := (hPast.marks hSpares hFirst).1
  have hLast := (hFuture.marks hSpares hMiddle).2 script
  unfold Session.hasFlag at hStood ⊢
  by_cases hSince :
      firings future script.thing script.verb = []
  · rw [hLast, if_pos hSince]
    exact hStood
  · rw [hLast, if_neg hSince]
    rfl

/- Files of a hall with a bell that two scripts ring. -/
def bellFiles : Disk
| "bell/rooms.json" =>
    .text "[\x7b\"id\": \"hall\", \"name\": \"Hall\"\x7d]"
| "bell/objects.json" =>
    .text
      ("[\x7b\"id\": \"bell\", \"name\": \"bell\", " ++
        "\"placement\": \x7b\"room\": \"hall\"\x7d\x7d]")
| "bell/puzzles.json" =>
    .text
      ("[\x7b\"id\": \"p\", \"name\": \"P\", " ++
        "\"conditions\": [\x7b\"kind\": \"flag\", " ++
        "\"target\": \"rung\"\x7d], \"effects\": []\x7d]")
| "bell/scripts.json" =>
    .text
      ("[\x7b\"object\": \"bell\", " ++
        "\"verb\": \"examine\", \"once\": true, " ++
        "\"effects\": [\x7b\"type\": \"set_flag\", " ++
        "\"flag\": \"rung\"\x7d]\x7d, " ++
        "\x7b\"object\": \"bell\", " ++
        "\"verb\": \"examine\", \"once\": true, " ++
        "\"message\": \"Ding.\"\x7d]")
| _ => .nothing

def bellSettings : Settings where
  source := .directory "bell"

/- The content of these files. -/
def bellContent : Content where
  rules := { startRoom := "hall" }
  rooms := [{ id := "hall", name := "Hall" }]
  things :=
    [{ id := "bell", name := "bell"
       placement := .room "hall" }]
  puzzles :=
    [{ id := "p"
       name := "P"
       conditions := [{ kind := .flag, target := "rung" }] }]
  scripts :=
    [{ thing := "bell"
       verb := .examine
       once := true
       effects := [.setFlag "rung" (.boolean true)] },
      { thing := "bell"
        verb := .examine
        once := true
        message := some "Ding." }]

theorem content_bellSettings :
    bellSettings.content bellFiles = bellContent := by
  decide +kernel

def bellHall : Game :=
  fresh bellSettings bellContent ⟨0⟩

/- The game in which the bell has been looked at. -/
def rungBell : Game :=
  (bellHall.execute "examine bell").value.1

/- What reading the bell is to do besides. -/
def bellInscription : Script where
  thing := "bell"
  verb := .read
  once := true

/-
  The bell is looked at, which sets off both scripts, and the
  game is saved, loaded and added to. When the bell is looked
  at again there is nothing more to be set off.
-/
theorem bell_rings_once :
    (bellHall.setOff "examine bell").length = 2 ∧
    ∃ loaded,
      (load bellSettings bellFiles
        (rungBell.save savedAt)).value = .ok loaded ∧
      let again := loaded.add (.script bellInscription)
      let played :=
        [(bellHall, "examine bell"), (again, "examine bell")]
      Plays bellContent bellHall played
        (again.execute "examine bell").value.1 ∧
      (firings played "bell" .examine = [] ∨
        ∃ turn ∈ played,
          (firings played "bell" .examine).Sublist
            turn.1.world.scripts) := by
  have hSetOff :
      (bellHall.setOff "examine bell").length = 2 := by
    decide +kernel
  have hValid :
      (bellSettings.content bellFiles).IsValid := by
    rw [content_bellSettings]
    rfl
  have hStart :
      (start bellSettings bellFiles ⟨0⟩).value =
        .ok bellHall := by
    rw [start_eq_ok_iff, content_bellSettings]
    exact ⟨by rfl, rfl⟩
  have hRecords :
      Records (bellSettings.content bellFiles) rungBell := by
    have hFirst :=
      records_of_start hStart ["examine bell"]
    exact hFirst
  have hPlain : rungBell.IsPlain := by decide +kernel
  have hLoad :=
    load_save_value hValid hRecords hPlain.1 ofText?_savedAt
      hPlain.isLegible
  have hSpares : ∀ effect ∈ bellContent.effects,
      effect.SparesMarks := by
    decide
  have hAdded : ∀ effect ∈
      (Addition.script bellInscription).effects,
        effect.SparesMarks := by
    decide
  refine ⟨hSetOff, _, hLoad, ?_⟩
  have hPlays :=
    Plays.execute
      (Plays.add
        (Plays.load
          (Plays.execute (.begins : Plays bellContent bellHall
            [] bellHall) "examine bell")
          content_bellSettings hLoad)
        (.script bellInscription) hAdded)
      "examine bell"
  rcases once_scripts_fire_once hSpares content_bellSettings
      hStart hPlays with ⟨-, hOnce, -, -⟩
  exact ⟨hPlays, hOnce "bell" .examine⟩

end Game

end TextAdventure
