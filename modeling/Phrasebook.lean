import Phrasebook.Main
import Phrasebook.Proofs.Agreement
import Phrasebook.Proofs.Completeness
import Phrasebook.Proofs.Placeholders
import Phrasebook.Proofs.Extents
import Phrasebook.Proofs.Edits
import Phrasebook.Proofs.DisabledLines
import Phrasebook.Proofs.Balance
import Phrasebook.Proofs.EmittedCalls
import Phrasebook.Proofs.Interpolations
import Phrasebook.Proofs.LineFeeds
import Phrasebook.Proofs.EditedLines
import Phrasebook.Proofs.LineCount
import Phrasebook.Proofs.LocationOrder
import Phrasebook.Proofs.Isolation
import Phrasebook.Proofs.Unchanged
import Phrasebook.Proofs.Outline
import Phrasebook.Proofs.LineEnds
import Phrasebook.Proofs.Nesting
import Phrasebook.Proofs.Values
import Phrasebook.Proofs.Rereading
import Phrasebook.Proofs.Structure
import Phrasebook.Proofs.ByteOrder
import Phrasebook.Proofs.Histories
import Phrasebook.Proofs.Concatenation
import Phrasebook.Proofs.Unterminated
import Phrasebook.Proofs.Failures
import Phrasebook.Proofs.Warnings
import Phrasebook.Proofs.Spellings
import Phrasebook.Proofs.Respacing
import Phrasebook.Proofs.Tokens
import Phrasebook.Proofs.Spreading
import Phrasebook.Proofs.Reindentation
import Phrasebook.Proofs.FoundCalls
import Phrasebook.Proofs.Quotation
import Phrasebook.Proofs.Toggles
import Phrasebook.Proofs.BlankLines
import Phrasebook.Proofs.Independence
import Phrasebook.Proofs.Placement
import Phrasebook.Proofs.Resolution
import Phrasebook.Proofs.Enclosing
import Phrasebook.Proofs.Listing
import Phrasebook.Proofs.MatchingClosers
