import ChatClient.UDPStopAndWait
import ChatClient.UDPSessionEnd
import ChatClient.UDPConfirmation
import ChatClient.UDPDuplicates
import ChatClient.UDPReplies
import ChatClient.TCPSegmentation
import ChatClient.Authentication
import ChatClient.UDPReceived
import ChatClient.UDPInterleaving
import ChatClient.UDPGating
import ChatClient.TCPGating
import ChatClient.TCPReassembly
import ChatClient.TCPAuthentication
import ChatClient.UDPLocalError
import ChatClient.UDPRetransmission
import ChatClient.Library.Separated
import ChatClient.UDPWire
import ChatClient.TCPGrammar
import ChatClient.TCPWire
import ChatClient.TCPInjection
import ChatClient.TCPTermination
import ChatClient.UserReturns
import ChatClient.FSMReactions
import ChatClient.FrontEnds
import ChatClient.Library.Numbering
import ChatClient.UDPWraparound
import ChatClient.UDPNumbering
import ChatClient.TCPReplies
import ChatClient.UDPBounds
import ChatClient.TCPLines
import ChatClient.TCPDecoders
import ChatClient.UDPDecoders
import ChatClient.Rejections
import ChatClient.UDPErrorDatagrams
import ChatClient.DisplayName
import ChatClient.TCPErrorLines
import ChatClient.Library.Decimal
import ChatClient.Startup
import ChatClient.Library.Delivery
import ChatClient.UDPDelivery
import ChatClient.UserExit
import ChatClient.ChatSession
import ChatClient.TCPSession
import ChatClient.UDPSession
import ChatClient.SessionsAlike
import ChatClient.Secrets
import ChatClient.UDPReception
import ChatClient.ClientOutput
import ChatClient.Library.Handles
import ChatClient.UDPPeer
import ChatClient.Process
import ChatClient.ChatRelay
