import MusicLibrary.Main
import MusicLibrary.Proofs.Album.MergedAgain
import MusicLibrary.Proofs.Album.Positions
import MusicLibrary.Proofs.Command.Edited
import MusicLibrary.Proofs.Command.Removed
import MusicLibrary.Proofs.Edit.InTurn
import MusicLibrary.Proofs.Edit.Shown
import MusicLibrary.Proofs.File.Scanned
import MusicLibrary.Proofs.Query.Albums
import MusicLibrary.Proofs.Query.Intersection
import MusicLibrary.Proofs.Query.Literal
import MusicLibrary.Proofs.Query.Statement
import MusicLibrary.Proofs.Store.AddedAll
import MusicLibrary.Proofs.Store.Discs
import MusicLibrary.Proofs.Store.Moved
import MusicLibrary.Proofs.Store.NewAlbum
import MusicLibrary.Proofs.Store.Picked
import MusicLibrary.Proofs.Store.Refused
import MusicLibrary.Proofs.Store.Reread
import MusicLibrary.Proofs.Store.SavedMember
import MusicLibrary.Proofs.Store.StoredDates
import MusicLibrary.Proofs.Tags.Numbering
import MusicLibrary.Proofs.Text.Shell
