import SpoilerMarkup.Command.Session
import SpoilerMarkup.Main
import SpoilerMarkup.Proofs.Node.Stream
import SpoilerMarkup.Proofs.SpanStyle.Agreement
import SpoilerMarkup.Proofs.SpanStyle.Confluence
import SpoilerMarkup.Proofs.Node.Place
import SpoilerMarkup.Proofs.Node.Rebuild
import SpoilerMarkup.Proofs.Node.Tour
import SpoilerMarkup.Proofs.Node.Follow
import SpoilerMarkup.Proofs.SpanStyle.Flatten
import SpoilerMarkup.Proofs.SpanStyle.Restore
import SpoilerMarkup.Proofs.Files.Write
import SpoilerMarkup.Proofs.Node.Close
import SpoilerMarkup.Proofs.Command.Session
import SpoilerMarkup.Proofs.Command.Arguments
import SpoilerMarkup.Proofs.SpanStyle.Draw
import SpoilerMarkup.Proofs.SpanStyle.Settled
import SpoilerMarkup.Proofs.Node.Stable
import SpoilerMarkup.Proofs.SpanStyle.Canonical
import SpoilerMarkup.Proofs.Node.Content
import SpoilerMarkup.Proofs.Segment.Line
import SpoilerMarkup.Proofs.Segment.Packing
import SpoilerMarkup.Proofs.Config.Load
import SpoilerMarkup.Proofs.Config.Discover
import SpoilerMarkup.Proofs.SpanStyle.Attribute
import SpoilerMarkup.Proofs.Node.Recut
import SpoilerMarkup.Proofs.Node.Append
import SpoilerMarkup.Proofs.SpanStyle.Meet
