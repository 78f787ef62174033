import LuaMarkup.Command.Run
import LuaMarkup.Host.Memory
import LuaMarkup.Host.World
import LuaMarkup.Proofs.CleanRun
import LuaMarkup.Main
import LuaMarkup.Proofs.Decoding
import LuaMarkup.Proofs.Erasure
import LuaMarkup.Proofs.Grammar
import LuaMarkup.Version
import LuaMarkup.Proofs.Chain
import LuaMarkup.Proofs.Comment
import LuaMarkup.Proofs.Exchange
import LuaMarkup.Proofs.Marker
import LuaMarkup.Proofs.Selection
import LuaMarkup.Proofs.Contents
import LuaMarkup.Proofs.Splicing
import LuaMarkup.Proofs.InPlace
import LuaMarkup.Proofs.ClassName
import LuaMarkup.Proofs.Settled
import LuaMarkup.Proofs.Doctype
import LuaMarkup.Proofs.Exhaustion
import LuaMarkup.Proofs.Linear
import LuaMarkup.Proofs.BottomUp
import LuaMarkup.Proofs.Reach
import LuaMarkup.Proofs.Growth
import LuaMarkup.Proofs.Concatenation
import LuaMarkup.Proofs.Backslash
import LuaMarkup.Proofs.Strings
import LuaMarkup.Proofs.LineComment
import LuaMarkup.Proofs.Forest
import LuaMarkup.Proofs.Keyword
import LuaMarkup.Proofs.Nonce
import LuaMarkup.Proofs.Extent
import LuaMarkup.Proofs.Style
import LuaMarkup.Proofs.Declaration
