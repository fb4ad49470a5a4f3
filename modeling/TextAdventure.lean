import TextAdventure.Game.Growth
import TextAdventure.Main
import TextAdventure.Proofs.Content.Validity
import TextAdventure.Proofs.Scene.Consistency
import TextAdventure.Proofs.Game.Restoring
import TextAdventure.Proofs.Play.Edits
import TextAdventure.Proofs.Game.Run
import TextAdventure.Proofs.Game.Consistency
import TextAdventure.Proofs.Play.Refusal
import TextAdventure.Proofs.Game.Refusal
import TextAdventure.Proofs.Format.Session
import TextAdventure.Proofs.Content.Finite
import TextAdventure.Proofs.World.Progress
import TextAdventure.Proofs.Scene.Memory
import TextAdventure.Proofs.Scene.Tracking
import TextAdventure.Proofs.Game.Tracking
import TextAdventure.Proofs.Game.Replay
import TextAdventure.Proofs.Game.Saving
import TextAdventure.Proofs.Json.Text
import TextAdventure.Proofs.Scene.Solving
import TextAdventure.Proofs.Game.Solving
import TextAdventure.Proofs.Game.Hands
import TextAdventure.Proofs.Play.Listings
import TextAdventure.Proofs.Play.Describing
import TextAdventure.Proofs.Game.Overlay
import TextAdventure.Proofs.Game.Resuming
import TextAdventure.Proofs.Game.Starting
import TextAdventure.Proofs.Game.Moving
import TextAdventure.Proofs.Game.Void
import TextAdventure.Proofs.Game.Keeping
import TextAdventure.Proofs.World.Addition
import TextAdventure.Proofs.World.Merging
import TextAdventure.Proofs.Scene.Advance
import TextAdventure.Proofs.Game.Advance
import TextAdventure.Proofs.Game.Reach
import TextAdventure.Proofs.Game.Death
import TextAdventure.Proofs.Game.Firing
import TextAdventure.Proofs.Json.Numbers
import TextAdventure.Proofs.Json.Rereading
import TextAdventure.Proofs.Format.Flags
import TextAdventure.Proofs.Content.Outermost
import TextAdventure.Proofs.Content.Cut
import TextAdventure.Proofs.World.Part
import TextAdventure.Proofs.Game.Refused
import TextAdventure.Proofs.Game.Recording
import TextAdventure.Proofs.Json.Nulls
import TextAdventure.Proofs.Format.Doubles
import TextAdventure.Proofs.Game.Reloading
import TextAdventure.Proofs.Play.Capability
import TextAdventure.Proofs.Format.Content
import TextAdventure.Proofs.Content.Acceptance
import TextAdventure.Proofs.World.Settling
import TextAdventure.Proofs.World.Moves
import TextAdventure.Proofs.World.Repeats
import TextAdventure.Proofs.Scene.Raising
import TextAdventure.Proofs.Command.Grammar
import TextAdventure.Proofs.Thing.Property
import TextAdventure.Proofs.Play.Darkness
import TextAdventure.Proofs.Play.Showing
import TextAdventure.Proofs.Text.Words
import TextAdventure.Proofs.Room.ExitKey
import TextAdventure.Proofs.Game.Viewing
import TextAdventure.Proofs.Command.Noun
import TextAdventure.Proofs.Command.Filler
import TextAdventure.Proofs.Game.Naming
import TextAdventure.Proofs.Game.Hints
import TextAdventure.Proofs.World.Naming
